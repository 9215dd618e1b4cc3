import TemplateMarkup.Proofs.Tree.Delivery

namespace TemplateMarkup

open Reading

open Assembly

-- What an assembly becomes by the tag of an element, which takes up the labels it declares.
def Reading.Head.opened (assembly : Assembly) (compress : Bool) (location : Location) :
    Head → Assembly
  | .removed => assembly.push .remove compress false
  | .body => (assembly.emitOne .body location).pushBare .body compress
  | .extensionPoint id =>
    let marked := (assembly.emitOne (.extensionPoint id) location).setOverride id #[]
    { marked with tokens := #[] }.pushBare (.extensionPoint id marked.tokens) compress
  | .output start isComponent tables =>
    { assembly with
      tokens := assembly.tokens ++ start
      ids := tables.ids
      overrides := tables.overrides
      scopes := ⟨compress, isComponent, .element⟩ :: assembly.scopes }

theorem Reading.Head.opened_resource (head : Head) (assembly : Assembly) (compress : Bool)
    (location : Location) :
    (head.opened assembly compress location).resource = assembly.resource := by
  cases head <;> rfl

namespace StartTag

variable {assembly : Assembly} {setting : Setting} {tables : Tables} {tag : StartTag}

theorem bindingTokens_of_hidden (resource : String)
    (h : tag.declarations.all (fun declaration => isHiddenBinding declaration.uri) = true) :
    tag.bindingTokens resource = #[] := by
  have hnone : tag.declarations.filterMap (·.token? resource) = [] := by
    rw [List.filterMap_eq_nil_iff]
    intro declaration hm
    rw [LabelDeclaration.token?, if_pos (List.all_eq_true.mp h declaration hm)]
  rw [bindingTokens, hnone]

-- Only the output elements declare labels that the output shows.
theorem declaring_eq_self (hplain : tag.isPlain = true)
    (houtput : tag.role.output? tag.name = none) (resource : String) :
    assembly.declaring (tag.bindingTokens resource) = assembly := by
  have hnone : tag.bindingTokens resource = #[] := by
    unfold isPlain at hplain
    split at hplain
    · rename_i hrole
      rw [hrole] at houtput
      cases houtput
    · rename_i componentType hrole
      rw [hrole] at houtput
      cases houtput
    all_goals first | cases hplain | exact bindingTokens_of_hidden resource hplain
  rw [declaring, hnone, Array.append_empty]

theorem openOutput_eq (hfits : assembly.Fits setting tables) (hbindings : assembly.bindings = #[])
    (element componentType : Option String) (compress : Bool) :
    (assembly.declaring (tag.bindingTokens assembly.resource)).openOutput tag.uri element
        componentType tag.attributes compress (tag.location assembly.resource) =
      (tag.outputHead assembly.resource tables element componentType).map
        (Head.opened assembly compress (tag.location assembly.resource)) := by
  simp only [Assembly.openOutput_eq, outputHead, bind, Except.bind, throw, throwThe,
    MonadExceptOf.throw, pure, Except.pure]
  cases (Component.ofType componentType).readAll (tag.location assembly.resource)
      tag.attributes with
  | error fault => rfl
  | ok component =>
      dsimp only
      split
      · rfl
      · cases component.id with
        | none =>
            simp [Assembly.register_eq, Tables.register, Except.map, Head.opened, emit, push,
              ← hfits.ids, ← hfits.overrides, declaring, hbindings, startTokens]
        | some id =>
            simp only [Assembly.register_eq, Tables.register, declaring, hfits.ids]
            cases tables.ids.get? id with
            | some first => rfl
            | none =>
                simp [Except.map, Head.opened, emit, push, ← hfits.overrides, hbindings,
                  startTokens]

theorem slotHead_opened (hfits : assembly.Fits setting tables) (form : TokenForm)
    (compress : Bool) :
    (tag.slotHead assembly.resource tables form).opened assembly compress
        (tag.location assembly.resource) =
      (assembly.emitOne form (tag.location assembly.resource)).push .element compress false := by
  simp [slotHead, Head.opened, emitOne, emit, push, ← hfits.ids, ← hfits.overrides]

theorem openDirective_eq (hfits : assembly.Fits setting tables) {directive : Directive}
    (hrole : tag.role = .directive directive) (hplain : tag.isPlain = true) (compress : Bool) :
    assembly.openDirective directive tag.name tag.attributes compress
        (tag.location assembly.resource) =
      (tag.head assembly.resource setting tables).map
        (Head.opened assembly compress (tag.location assembly.resource)) := by
  simp only [Assembly.openDirective_eq, head, hrole, bind, Except.bind, throw, throwThe,
    MonadExceptOf.throw, pure, Except.pure]
  cases directive with
  | remove => rfl
  | content | extend | replace | container => simp [isPlain, hrole] at hplain
  | body => rfl
  | extensionPoint =>
      cases requiredAttribute tag.name "id" (tag.location assembly.resource) tag.attributes with
      | error fault => rfl
      | ok id =>
          dsimp only
          rw [hfits.inExtensionPoint]
          split <;> rfl
  | block =>
      cases requiredAttribute tag.name "id" (tag.location assembly.resource) tag.attributes with
      | error fault => rfl
      | ok id =>
          dsimp only
          split
          · exact congrArg Except.ok (slotHead_opened hfits _ _).symm
          · rfl
  | parameter =>
      cases requiredAttribute tag.name "name" (tag.location assembly.resource)
          tag.attributes with
      | error fault => rfl
      | ok label =>
          dsimp only
          rw [hfits.isComponent]
          split
          · exact congrArg Except.ok (slotHead_opened hfits _ _).symm
          · rfl

theorem openByRole_eq (hfits : assembly.Fits setting tables) (hbindings : assembly.bindings = #[])
    (hplain : tag.isPlain = true) :
    (assembly.declaring (tag.bindingTokens assembly.resource)).openByRole tag.uri tag.name
        tag.attributes (tag.location assembly.resource) =
      (tag.head assembly.resource setting tables).map
        (Head.opened assembly ((Attribute.compression? tag.attributes).getD setting.compress)
          (tag.location assembly.resource)) := by
  have hcompress : (assembly.declaring (tag.bindingTokens assembly.resource)).compressing =
      setting.compress := hfits.compress
  have hname : ElementRole.ofName tag.uri tag.name = tag.role := rfl
  simp only [Assembly.openByRole_eq, hcompress, hname]
  cases hrole : tag.role with
  | plain =>
      simp only [head, hrole]
      exact openOutput_eq hfits hbindings _ _ _
  | component componentType =>
      simp only [head, hrole]
      exact openOutput_eq hfits hbindings _ _ _
  | directive found =>
      rw [declaring_eq_self hplain (by rw [hrole]; rfl), ← openDirective_eq hfits hrole hplain]
  | blockParameter =>
      rw [declaring_eq_self hplain (by rw [hrole]; rfl)]
      simp only [head, hrole, openBlockParameter_eq, hfits.isComponent]
      cases setting.isComponent with
      | false => rfl
      | true =>
          cases tag.attributes with
          | nil => exact congrArg Except.ok (slotHead_opened hfits _ _).symm
          | cons attr others => rfl
  | strayLibrary uri =>
      simp only [head, hrole]
      rfl

end StartTag

end TemplateMarkup
