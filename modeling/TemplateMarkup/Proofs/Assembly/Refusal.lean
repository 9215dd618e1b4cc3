import TemplateMarkup.Proofs.Assembly.Reach

namespace TemplateMarkup

variable {location : Location} {fault : Fault}

private theorem bind_error {α β : Type} {value : Except Fault α} {next : α → Except Fault β}
    (h : value >>= next = .error fault) :
    value = .error fault ∨ ∃ found, value = .ok found ∧ next found = .error fault := by
  cases value with
  | error other =>
      cases h
      exact .inl rfl
  | ok found => exact .inr ⟨found, rfl, h⟩

theorem Component.location?_of_read {component : Component} {attr : Attribute}
    (h : component.read location attr = .error fault) : fault.location? = some location := by
  unfold read at h
  split at h
  · cases h
  · split at h
    · cases h
    · split at h
      · cases h
      · cases h
        rfl
  all_goals cases h

theorem Component.location?_of_readAll {component : Component} {attributes : List Attribute}
    (h : component.readAll location attributes = .error fault) :
    fault.location? = some location := by
  induction attributes generalizing component with
  | nil => cases h
  | cons attr rest ih =>
      rw [readAll, List.foldlM_cons] at h
      rcases bind_error h with hread | ⟨next, -, hrest⟩
      · exact location?_of_read hread
      · exact ih hrest

namespace Assembly

variable {assembly : Assembly}

theorem location?_of_register {id : Option String}
    (h : assembly.register id location = .error fault) : fault.location? = some location := by
  rw [register_eq] at h
  split at h
  · cases h
  · split at h
    · cases h
      rfl
    · cases h

theorem location?_of_openOutput {uri element componentType : Option String}
    {attributes : List Attribute} {compress : Bool}
    (h : assembly.openOutput uri element componentType attributes compress location =
      .error fault) : fault.location? = some location := by
  rw [openOutput_eq] at h
  split at h
  · rename_i hread
    cases h
    exact Component.location?_of_readAll hread
  · split at h
    · cases h
      rfl
    · split at h
      · rename_i hregister
        cases h
        exact location?_of_register hregister
      · cases h

theorem location?_of_onlyAttribute {element key : String} {found : Option String}
    {attributes : List Attribute}
    (h : onlyAttribute element key location found attributes = .error fault) :
    fault.location? = some location := by
  induction attributes generalizing found with
  | nil => cases h
  | cons attr rest ih =>
      rw [onlyAttribute] at h
      split at h
      · exact ih h
      · split at h
        · exact ih h
        · cases h
          rfl

theorem location?_of_requiredAttribute {element key : String} {attributes : List Attribute}
    (h : requiredAttribute element key location attributes = .error fault) :
    fault.location? = some location := by
  unfold requiredAttribute at h
  split at h
  · rename_i honly
    cases h
    exact location?_of_onlyAttribute honly
  · split at h
    · cases h
    · cases h
      rfl

theorem location?_of_openDirective {directive : Directive} {name : String}
    {attributes : List Attribute} {compress : Bool}
    (h : assembly.openDirective directive name attributes compress location = .error fault) :
    fault.location? = some location := by
  cases directive with
  | remove => cases h
  | content =>
      simp only [openDirective_eq] at h
      split at h
      · cases h
        rfl
      · cases h
  | extensionPoint =>
      rw [openDirective_eq] at h
      rcases bind_error h with hid | ⟨id, -, h⟩
      · exact location?_of_requiredAttribute hid
      · split at h
        · cases h
          rfl
        · cases h
  | extend =>
      simp only [openDirective_eq] at h
      split at h
      · cases h
        rfl
      · cases h
  | replace =>
      simp only [openDirective_eq] at h
      split at h
      · cases h
        rfl
      · rcases bind_error h with hid | ⟨id, -, h⟩
        · exact location?_of_requiredAttribute hid
        · cases h
  | body => cases h
  | block =>
      rw [openDirective_eq] at h
      rcases bind_error h with hid | ⟨id, -, h⟩
      · exact location?_of_requiredAttribute hid
      · split at h
        · cases h
        · cases h
          rfl
  | parameter =>
      rw [openDirective_eq] at h
      rcases bind_error h with hlabel | ⟨label, -, h⟩
      · exact location?_of_requiredAttribute hlabel
      · split at h
        · cases h
        · cases h
          rfl
  | container =>
      simp only [openDirective_eq] at h
      split at h
      · cases h
        rfl
      · cases h

theorem location?_of_openByRole {uri : Option String} {name : String}
    {attributes : List Attribute}
    (h : assembly.openByRole uri name attributes location = .error fault) :
    fault.location? = some location := by
  simp only [openByRole_eq] at h
  split at h
  · exact location?_of_openOutput h
  · exact location?_of_openOutput h
  · exact location?_of_openDirective h
  · rw [openBlockParameter_eq] at h
    split at h
    · cases h
      rfl
    · split at h
      · cases h
        rfl
      · cases h
  · cases h
    rfl

-- A fault names the line of the event that is refused.
theorem location?_of_refused {placed : PlacedEvent}
    (h : (assembly.step placed).fault = some fault) :
    fault.location? = some (assembly.place placed.line) := by
  obtain ⟨line, event⟩ := placed
  cases event with
  | elementStart uri name attributes =>
      simp only [step, react_elementStart, elementStart_eq] at h
      split at h
      · cases h
      · split at h
        · cases h
        · split at h
          · cases h
            rfl
          · split at h
            · cases h
            · rename_i hopen
              cases h
              exact location?_of_openByRole hopen
  | text content =>
      simp only [step, react_characters, characters_eq] at h
      split at h
      · cases h
      · split at h
        · cases h
          rfl
        · cases h
  | _ => cases h

theorem Opening.resource_eq {next : Assembly} {uri : Option String} {name : String}
    {attributes : List Attribute} {compress : Bool}
    (h : Opening assembly uri name attributes compress location next) :
    next.resource = assembly.resource := by
  cases h <;> rfl

theorem Closing.resource_eq {next : Assembly} (h : Closing assembly location next) :
    next.resource = assembly.resource := by
  cases h <;> rfl

theorem resource_step (assembly : Assembly) (placed : PlacedEvent) :
    (assembly.step placed).next.resource = assembly.resource := by
  by_cases hfault : (assembly.step placed).fault = none
  · have hmove := move_of_step hfault
    generalize (assembly.step placed).next = next at hmove
    obtain ⟨line, event⟩ := placed
    cases hmove with
    | start uri name attributes next hphase hdoctype hremoved hplace hopening =>
        rw [hopening.resource_eq, settled_resource]
    | finish uri name next hphase hdoctype hclosing =>
        rw [hclosing.resource_eq, settled_resource]
    | comment text hidle => exact settled_resource assembly
    | cdataStart hidle => exact settled_resource assembly
    | _ => rfl
  · rcases next_of_refused hfault with he | he
    · rw [he]
    · rw [he, settled_resource]

-- The fault that ends a run names the line of one of its events.
theorem location?_of_feed {events : List PlacedEvent} (h : assembly.feed events = .error fault) :
    ∃ placed ∈ events, fault.location? = some ⟨assembly.resource, placed.line⟩ := by
  induction events generalizing assembly with
  | nil => cases h
  | cons placed rest ih =>
      cases hfault : (assembly.step placed).fault with
      | some first =>
          rw [feed_of_fault hfault] at h
          cases h
          exact ⟨placed, List.mem_cons_self, location?_of_refused hfault⟩
      | none =>
          rw [feed_of_no_fault hfault] at h
          obtain ⟨other, hm, hlocation⟩ := ih h
          rw [resource_step] at hlocation
          exact ⟨other, List.mem_cons_of_mem _ hm, hlocation⟩

theorem resource_after (assembly : Assembly) (events : List PlacedEvent) :
    (assembly.after events).resource = assembly.resource := by
  induction events generalizing assembly with
  | nil => rfl
  | cons placed rest ih =>
      calc (assembly.after (placed :: rest)).resource
          = ((assembly.step placed).next.after rest).resource := rfl
        _ = (assembly.step placed).next.resource := ih _
        _ = assembly.resource := resource_step assembly placed

theorem after_append (assembly : Assembly) (first second : List PlacedEvent) :
    assembly.after (first ++ second) = (assembly.after first).after second :=
  List.foldl_append

-- A refused event shows nowhere: the template stays as it is, and so do the open elements, the
-- content phase, the document type and the bindings that wait. The fault names the line of the
-- event. The events before may have been refused as well.
theorem after_refused {resource : String} {compress : Bool} {events : List PlacedEvent}
    {placed : PlacedEvent}
    (h : (((start resource compress).after events).step placed).fault = some fault) :
    let before := (start resource compress).after events
    let behind := (start resource compress).after (events ++ [placed])
    behind.template = before.template ∧ behind.scopes = before.scopes ∧
      behind.phase = before.phase ∧ behind.inDoctype = before.inDoctype ∧
      behind.bindings = before.bindings ∧ fault.location? = some ⟨resource, placed.line⟩ := by
  intro before behind
  have hbehind : behind = (before.step placed).next := after_append _ events [placed]
  have hlocation : fault.location? = some ⟨resource, placed.line⟩ := by
    rw [location?_of_refused h, place, resource_after]
    rfl
  -- text that was pending is settled at most, as the end of the events would do it
  rcases next_of_refused (show (before.step placed).fault ≠ none by rw [h]; simp) with he | he
  · rw [hbehind, he]
    exact ⟨rfl, rfl, rfl, rfl, rfl, hlocation⟩
  · rw [hbehind, he]
    exact ⟨template_settled before, settled_scopes before, settled_phase before,
      settled_inDoctype before, settled_bindings before, hlocation⟩

-- Text between two parts of a component, the first of which is refused behind that text.
def refusedParts : List PlacedEvent := [
  ⟨some 1, .binding "u" "urn:u"⟩,
  ⟨some 1, .elementStart none "div" [⟨some Naming.templateUri51, "id", "a"⟩]⟩,
  ⟨some 2, .binding "v" "urn:v"⟩, ⟨some 2, .text " x\n"⟩,
  ⟨some 3, .elementStart (some Naming.parameterUri) "p" [⟨none, "class", "c"⟩]⟩,
  ⟨some 4, .text "y "⟩]

-- A component whose id is known in another spelling.
def knownComponent : PlacedEvent :=
  ⟨some 5, .elementStart none "p" [⟨some Naming.templateUri50, "ID", "A"⟩]⟩

theorem after_refused_knownComponent :
    ∃ fault, (((start "T.tml" true).after refusedParts).step knownComponent).fault = some fault ∧
      let before := (start "T.tml" true).after refusedParts
      let behind := (start "T.tml" true).after (refusedParts ++ [knownComponent])
      behind.template = before.template ∧ behind.scopes = before.scopes ∧
        behind.phase = before.phase ∧ behind.inDoctype = before.inDoctype ∧
        behind.bindings = before.bindings ∧
        fault.location? = some ⟨"T.tml", knownComponent.line⟩ := by
  have hfault : (((start "T.tml" true).after refusedParts).step knownComponent).fault =
      some (.duplicateId "A" ⟨"T.tml", some 1⟩ ⟨"T.tml", some 5⟩) := by
    decide +kernel
  exact ⟨_, hfault, after_refused hfault⟩

end Assembly

end TemplateMarkup
