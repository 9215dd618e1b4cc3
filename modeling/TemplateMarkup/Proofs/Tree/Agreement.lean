import TemplateMarkup.Proofs.Tree.Head

namespace TemplateMarkup

open Reading Assembly

namespace Assembly

variable {assembly : Assembly} {setting : Setting} {tables : Tables}

theorem Fits.feed_start (h : assembly.Fits setting tables) (line : Option Nat)
    (uri : Option String) (name : String) (attributes : List Attribute)
    (rest : List PlacedEvent) :
    assembly.feed (⟨line, .elementStart uri name attributes⟩ :: rest) =
      (assembly.settled.openByRole uri name attributes ⟨assembly.resource, line⟩).bind
        fun next => next.feed rest := by
  have hplace : assembly.placementFault? uri name = none := by
    simp [placementFault?, h.inBody, h.isExtension]
  simp only [feed, step, react_elementStart, elementStart_eq, h.phase, h.inDoctype, h.inRemoved,
    hplace, place]
  cases assembly.settled.openByRole uri name attributes ⟨assembly.resource, line⟩ <;> rfl

-- The text in front of an element is settled before the element takes up its labels.
theorem Fits.feed_tag (h : assembly.Fits setting tables) (hbindings : assembly.bindings = #[])
    {tag : StartTag} (hplain : tag.isPlain = true) (rest : List PlacedEvent) :
    assembly.feed (tag.declarations.map (·.placed) ++
        ⟨tag.line, .elementStart tag.uri tag.name tag.attributes⟩ :: rest) =
      (tag.head assembly.resource setting tables).bind fun head =>
        (head.opened assembly.settled
          ((Attribute.compression? tag.attributes).getD setting.compress)
          (tag.location assembly.resource)).feed rest := by
  have hsettled : (assembly.declaring (tag.bindingTokens assembly.resource)).settled =
      assembly.settled.declaring (tag.bindingTokens assembly.settled.resource) := by
    simp only [Assembly.settled_eq, declaring]
    rfl
  have hopen := StartTag.openByRole_eq h.settled (by simpa using hbindings) hplain
  rw [← hsettled, settled_resource] at hopen
  have hdeclared : (assembly.declaring (tag.bindingTokens assembly.resource)).Fits setting tables :=
    { h with }
  have hstart := hdeclared.feed_start tag.line tag.uri tag.name tag.attributes rest
  rw [feed_declarations h.isIdle]
  refine (hstart.trans (congrArg (·.bind fun next => feed next rest) hopen)).trans ?_
  cases tag.head assembly.resource setting tables <;> rfl

theorem Fits.delivered_nothing (h : assembly.Fits setting tables)
    (hpending : assembly.pending = none) : assembly.delivered #[] tables = assembly := by
  simp only [Assembly.delivered, Array.append_empty, ← h.ids, ← h.overrides, ← hpending]

theorem role_ne_remove {tag : StartTag} {head : Head} {resource : String}
    (hhead : tag.head resource setting tables = .ok head) (hne : head ≠ .removed) :
    tag.role ≠ .directive .remove := by
  intro hrole
  simp only [StartTag.head, hrole] at hhead
  cases hhead
  exact hne rfl

-- The end of a removed element leaves all as it was in front of the element.
theorem feed_inside_removed (h : assembly.Fits setting tables) (hpending : assembly.pending = none)
    (children : Forest) (compress : Bool) (location : Location) (line uri name)
    (rest : List PlacedEvent) :
    (Head.removed.opened assembly compress location).feed
        (children.events ++ ⟨line, .elementEnd uri name⟩ :: rest) =
      assembly.feed rest := by
  have hover := h.phase_ne_over
  have hnodes : (assembly.push .remove compress false).feed children.events =
      .ok (assembly.push .remove compress false) :=
    feed_removed children hover h.inDoctype rfl hpending
  have hinside : ((assembly.push .remove compress false).feed children.events).map settled =
      (Except.ok ()).map fun _ => assembly.push .remove compress false := by
    rw [hnodes]
    exact congrArg Except.ok (settled_of_none hpending)
  exact feed_enclosed hinside (fun _ => hover) (fun _ => h.inDoctype) (fun _ => rfl) uri name rest

theorem feed_inside_body (h : assembly.Fits setting tables) (hpending : assembly.pending = none)
    (children : Forest) (compress : Bool) (location : Location) (line uri name)
    (rest : List PlacedEvent) :
    (Head.body.opened assembly compress location).feed
        (children.events ++ ⟨line, .elementEnd uri name⟩ :: rest) =
      (children.readBody assembly.resource).bind fun tokens =>
        (assembly.delivered (#[⟨.body, location⟩] ++ tokens) tables).feed rest := by
  have hover := h.phase_ne_over
  have hnodes : (Head.body.opened assembly compress location).feed children.events =
      (children.readBody assembly.resource).map
        (Head.body.opened assembly compress location).emit :=
    feed_body children hover h.inDoctype rfl hpending
  have hinside : ((Head.body.opened assembly compress location).feed children.events).map settled =
      (children.readBody assembly.resource).map
        (Head.body.opened assembly compress location).emit := by
    rw [hnodes]
    cases children.readBody assembly.resource with
    | error fault => rfl
    | ok tokens => exact congrArg Except.ok (settled_of_none hpending)
  refine feed_enclosed hinside (fun _ => hover) (fun _ => h.inDoctype) (fun tokens => ?_) uri name
    rest
  simp [Head.opened, emitOne, emit, pushBare, push, closeElement, Assembly.delivered, hpending,
    h.ids, h.overrides]

theorem feed_inside_extensionPoint (h : assembly.Fits setting tables)
    {children : Forest} {inside : Except Fault Passage} {id : String} {compress : Bool}
    {location : Location}
    (hinside : (((Head.extensionPoint id).opened assembly compress location).feed
        children.events).map settled =
      inside.map fun passage =>
        ((Head.extensionPoint id).opened assembly compress location).delivered passage.tokens
          passage.tables)
    (line uri name) (rest : List PlacedEvent) :
    ((Head.extensionPoint id).opened assembly compress location).feed
        (children.events ++ ⟨line, .elementEnd uri name⟩ :: rest) =
      inside.bind fun content =>
        (assembly.delivered #[⟨.extensionPoint id, location⟩]
          (content.tables.setOverride id content.tokens)).feed rest := by
  refine feed_enclosed hinside (fun _ => h.phase_ne_over) (fun _ => h.inDoctype)
    (fun content => ?_) uri name rest
  simp [Head.opened, emitOne, emit, pushBare, push, closeElement, Assembly.delivered,
    Assembly.setOverride, Tables.setOverride]

theorem feed_inside_output (h : assembly.Fits setting tables)
    {children : Forest} {inside : Except Fault Passage} {start : Array Token} {isComponent : Bool}
    {found : Tables} {compress : Bool} {location : Location}
    (hinside : (((Head.output start isComponent found).opened assembly compress location).feed
        children.events).map settled =
      inside.map fun passage =>
        ((Head.output start isComponent found).opened assembly compress location).delivered
          passage.tokens passage.tables)
    (line uri name) (rest : List PlacedEvent) :
    ((Head.output start isComponent found).opened assembly compress location).feed
        (children.events ++ ⟨line, .elementEnd uri name⟩ :: rest) =
      inside.bind fun content =>
        (assembly.delivered
          (start ++ content.tokens ++ #[⟨.endElement, ⟨assembly.resource, line⟩⟩])
          content.tables).feed rest := by
  refine feed_enclosed hinside (fun _ => h.phase_ne_over) (fun _ => h.inDoctype)
    (fun content => ?_) uri name rest
  simp [Head.opened, emitOne, emit, closeElement, Assembly.delivered]

theorem Fits.opened_extensionPoint (h : assembly.Fits setting tables) (id : String)
    (compress : Bool) (location : Location) :
    ((Head.extensionPoint id).opened assembly compress location).Fits
      ⟨compress, setting.isComponent, true⟩ (tables.setOverride id #[]) where
  compress := rfl
  isComponent := h.isComponent
  inExtensionPoint := rfl
  ids := h.ids
  overrides := by
    rw [Tables.setOverride, ← h.overrides]
    rfl
  phase := h.phase
  inDoctype := h.inDoctype
  inRemoved := rfl
  inBody := rfl
  isExtension := h.isExtension

theorem Fits.opened_output (h : assembly.Fits setting tables) (start : Array Token)
    (isComponent : Bool) (found : Tables) (compress : Bool) (location : Location) :
    ((Head.output start isComponent found).opened assembly compress location).Fits
      ⟨compress, isComponent, setting.inExtensionPoint⟩ found where
  compress := rfl
  isComponent := rfl
  inExtensionPoint := h.inExtensionPoint
  ids := rfl
  overrides := rfl
  phase := h.phase
  inDoctype := h.inDoctype
  inRemoved := rfl
  inBody := rfl
  isExtension := h.isExtension

-- The tokens of the text that waits in front of some nodes and goes on with them.
def runTokens (assembly : Assembly) (forest : Forest) : Array Token :=
  match assembly.pending with
  | none => #[]
  | some pending =>
    textTokens assembly.compressing ⟨pending.text ++ forest.leadingText, pending.location⟩

theorem runTokens_of_none (hpending : assembly.pending = none) (forest : Forest) :
    assembly.runTokens forest = #[] := by
  simp only [runTokens, hpending]

theorem runTokens_of_some {pending : PendingText} (hpending : assembly.pending = some pending)
    (forest : Forest) :
    assembly.runTokens forest =
      textTokens assembly.compressing ⟨pending.text ++ forest.leadingText, pending.location⟩ := by
  simp only [runTokens, hpending]

theorem runTokens_of_not_text {forest : Forest} (h : forest.leadingText = "") :
    assembly.runTokens forest = assembly.settlement := by
  unfold runTokens settlement
  cases assembly.pending with
  | none => rfl
  | some pending => simp [h]

-- Feeding the events of some nodes and settling is reading the nodes. Text in front of them
-- forms one run with the text that they begin with.
def Agrees (forest : Forest) : Prop :=
  ∀ ⦃assembly : Assembly⦄ ⦃setting : Setting⦄ ⦃tables : Tables⦄, assembly.Fits setting tables →
    assembly.bindings = #[] →
      (assembly.feed forest.events).map settled =
        (forest.read assembly.resource setting tables assembly.pending.isSome).map fun passage =>
          assembly.delivered (assembly.runTokens forest ++ passage.tokens) passage.tables

theorem Agrees.of_none {forest : Forest} (hforest : Agrees forest)
    (h : assembly.Fits setting tables) (hpending : assembly.pending = none)
    (hbindings : assembly.bindings = #[]) :
    (assembly.feed forest.events).map settled =
      (forest.read assembly.resource setting tables false).map fun passage =>
        assembly.delivered passage.tokens passage.tables := by
  have hrun := hforest h hbindings
  simpa only [runTokens_of_none hpending, hpending, Option.isSome_none, Array.empty_append]
    using hrun

-- The reading goes on behind nodes that have been read.
theorem Agrees.behind {forest : Forest} (hforest : Agrees forest)
    (h : assembly.Fits setting tables) (hbindings : assembly.bindings = #[])
    (tokens : Array Token) (found : Tables) :
    ((assembly.delivered tokens found).feed forest.events).map settled =
      (forest.read assembly.resource setting found false).map fun more =>
        assembly.delivered (tokens ++ more.tokens) more.tables := by
  have hrest := hforest.of_none (h.delivered tokens found) rfl hbindings
  simpa only [delivered_delivered, delivered_resource] using hrest

theorem feed_inside (tag : StartTag) {children : Forest} (h : assembly.Fits setting tables)
    (hpending : assembly.pending = none) (hbindings : assembly.bindings = #[])
    (hchildren : tag.role ≠ .directive .remove → Agrees children)
    (endLine : Option Nat) (rest : List PlacedEvent) :
    ((tag.head assembly.resource setting tables).bind fun head =>
        (head.opened assembly ((Attribute.compression? tag.attributes).getD setting.compress)
          (tag.location assembly.resource)).feed
            (children.events ++ ⟨endLine, .elementEnd tag.uri tag.name⟩ :: rest)) =
      (tag.read assembly.resource setting tables endLine (children.readBody assembly.resource)
        fun setting tables => children.read assembly.resource setting tables false).bind
          fun passage => (assembly.delivered passage.tokens passage.tables).feed rest := by
  generalize hcompress :
    (Attribute.compression? tag.attributes).getD setting.compress = compress
  simp only [StartTag.read, bind, hcompress]
  cases hhead : tag.head assembly.resource setting tables with
  | error fault => rfl
  | ok head =>
      cases head with
      | removed =>
          refine (feed_inside_removed h hpending children _ _ _ _ _ rest).trans ?_
          simp only [Except.bind, pure, Except.pure, h.delivered_nothing hpending]
      | body =>
          refine (feed_inside_body h hpending children _ _ _ _ _ rest).trans ?_
          cases hread : children.readBody assembly.resource <;> rfl
      | extensionPoint id =>
          have hinside := (hchildren (role_ne_remove hhead (by simp))).of_none
            (h.opened_extensionPoint id compress (tag.location assembly.resource)) hpending
            hbindings
          rw [Head.opened_resource] at hinside
          refine (feed_inside_extensionPoint h hinside _ _ _ rest).trans ?_
          change _ = ((children.read assembly.resource ⟨compress, setting.isComponent, true⟩
            (tables.setOverride id #[]) false).bind fun content => pure _).bind _
          cases children.read assembly.resource ⟨compress, setting.isComponent, true⟩
            (tables.setOverride id #[]) false <;> rfl
      | output start isComponent found =>
          have hinside := (hchildren (role_ne_remove hhead (by simp))).of_none
            (h.opened_output start isComponent found compress (tag.location assembly.resource))
            hpending hbindings
          rw [Head.opened_resource] at hinside
          refine (feed_inside_output h hinside _ _ _ rest).trans ?_
          change _ = ((children.read assembly.resource
            ⟨compress, isComponent, setting.inExtensionPoint⟩ found false).bind
              fun content => pure _).bind _
          cases children.read assembly.resource ⟨compress, isComponent, setting.inExtensionPoint⟩
            found false <;> rfl

theorem agrees_nil : Agrees .nil := by
  intro assembly setting tables h hbindings
  rw [Forest.events, feed, Except.map, h.settled_eq, runTokens_of_not_text rfl]
  simp [Forest.read, pure, Except.pure, Except.map]

theorem Agrees.comment {rest : Forest} (hrest : Agrees rest) (line : Option Nat)
    (content : String) : Agrees (.comment line content rest) := by
  intro assembly setting tables h hbindings
  have hstep : assembly.step ⟨line, .comment content⟩ = .accepted
      (assembly.delivered (assembly.settlement ++
        #[⟨.comment (Text.trimmed content), ⟨assembly.resource, line⟩⟩]) tables) := by
    simp [step, Assembly.comment, h.isIdle, h.settled_eq, emitOne, emit, Assembly.delivered, place]
  rw [Forest.events, feed_of_accepted hstep, hrest.behind h hbindings,
    runTokens_of_not_text rfl, Forest.read]
  cases rest.read assembly.resource setting tables false with
  | error fault => rfl
  | ok more => simp [bind, Except.bind, pure, Except.pure, Except.map]

-- The text that waits behind another piece of text.
def joined (assembly : Assembly) (line : Option Nat) (content : String) : PendingText :=
  let pending := assembly.pending.getD ⟨"", ⟨assembly.resource, line⟩⟩
  ⟨pending.text ++ content, pending.location⟩

theorem step_text (h : assembly.isIdle = false) (hbody : assembly.inBody = false)
    (line : Option Nat) (content : String) :
    assembly.step ⟨line, .text content⟩ =
      .accepted (assembly.gathering (assembly.joined line content)) :=
  step_text_of_counting h hbody line content

theorem Agrees.cdata {rest : Forest} (hrest : Agrees rest)
    (startLine textLine endLine : Option Nat) (content : String) :
    Agrees (.cdata startLine textLine endLine content rest) := by
  intro assembly setting tables h hbindings
  have hsection := feed_sectionEvents h.isIdle h.inBody startLine [(textLine, content)] endLine
    rest.events
  have hbehind : assembly.behindSection (textOf [(textLine, content)]) (assembly.place startLine) =
      assembly.delivered
        (assembly.settlement ++ #[⟨.cdata content, ⟨assembly.resource, startLine⟩⟩]) tables := by
    simp [behindSection, textOf, Assembly.delivered, place, h.ids, h.overrides]
  have hevents : (Forest.cdata startLine textLine endLine content rest).events =
      sectionEvents startLine [(textLine, content)] endLine ++ rest.events := rfl
  rw [hevents, hsection, hbehind, hrest.behind h hbindings, runTokens_of_not_text rfl, Forest.read]
  cases rest.read assembly.resource setting tables false with
  | error fault => rfl
  | ok more => simp [bind, Except.bind, pure, Except.pure, Except.map]

theorem Agrees.text {rest : Forest} (hrest : Agrees rest) (line : Option Nat)
    (content : String) : Agrees (.text line content rest) := by
  intro assembly setting tables h hbindings
  have hrun := hrest (h.gathering (assembly.joined line content)) hbindings
  rw [runTokens_of_some rfl] at hrun
  rw [Forest.events, feed_of_accepted (step_text h.isIdle h.inBody line content), hrun,
    Forest.read]
  have hcompress : (assembly.gathering (assembly.joined line content)).compressing =
      setting.compress := h.compress
  have hresource : (assembly.gathering (assembly.joined line content)).resource =
      assembly.resource := rfl
  have hsome : (assembly.gathering (assembly.joined line content)).pending.isSome = true := rfl
  rw [hcompress, hresource, hsome]
  cases rest.read assembly.resource setting tables true with
  | error fault => rfl
  | ok more =>
      cases hpending : assembly.pending with
      | none =>
          rw [runTokens_of_none hpending]
          simp [joined, hpending, bind, Except.bind, pure, Except.pure, Except.map, gathering,
            Assembly.delivered]
      | some pending =>
          rw [runTokens_of_some hpending, Forest.leadingText, h.compress]
          simp [joined, hpending, bind, Except.bind, pure, Except.pure, Except.map, gathering,
            Assembly.delivered, String.append_assoc]

theorem Agrees.element {children rest : Forest} {tag : StartTag} (hplain : tag.isPlain = true)
    (hchildren : tag.role ≠ .directive .remove → Agrees children) (hrest : Agrees rest)
    (endLine : Option Nat) : Agrees (.element tag children endLine rest) := by
  intro assembly setting tables h hbindings
  have hsettled : assembly.settled.bindings = #[] := by simpa using hbindings
  have hinside := feed_inside tag h.settled (settled_pending assembly) hsettled hchildren
    endLine rest.events
  rw [settled_resource] at hinside
  rw [Forest.events, h.feed_tag hbindings hplain, hinside, runTokens_of_not_text rfl, Forest.read]
  cases tag.read assembly.resource setting tables endLine (children.readBody assembly.resource)
    fun setting tables => children.read assembly.resource setting tables false with
  | error fault => rfl
  | ok own =>
      simp only [Except.bind, bind]
      rw [hrest.behind h.settled hsettled, settled_resource]
      cases rest.read assembly.resource setting own.tables false with
      | error fault => rfl
      | ok more =>
          simp [Except.map, pure, Except.pure, h.settled_eq, delivered_delivered]

-- Tags of plain nodes are plain, and so are their children unless they are removed.
theorem agrees_of_isPlain (forest : Forest) (hplain : forest.isPlain = true) : Agrees forest := by
  induction forest with
  | nil => exact agrees_nil
  | element tag children endLine rest ihc ihr =>
      simp only [Forest.isPlain, Bool.and_eq_true, Bool.or_eq_true, beq_iff_eq] at hplain
      obtain ⟨⟨htag, hchildren⟩, hrest⟩ := hplain
      exact .element htag (fun hrole => ihc (hchildren.resolve_left hrole)) (ihr hrest) endLine
  | text line content rest ih => exact .text (ih hplain) line content
  | comment line content rest ih => exact .comment (ih hplain) line content
  | cdata startLine textLine endLine content rest ih =>
      exact .cdata (ih hplain) startLine textLine endLine content

theorem fits_start (resource : String) (compress : Bool) :
    (start resource compress).Fits ⟨compress, false, false⟩ Tables.empty :=
  ⟨rfl, rfl, rfl, rfl, rfl, rfl, rfl, rfl, rfl, rfl⟩

end Assembly

-- Assembling a document is reading it by recursion over its nodes: both take the same documents,
-- give the same template and stop at the same fault.
theorem EventStream.assemble_events (forest : Forest) (hplain : forest.isPlain = true)
    (resource : String) (compress : Bool) :
    (EventStream.mk forest.events none).assemble resource compress =
      forest.reading resource compress := by
  have hrun : ((start resource compress).feed forest.events).map settled =
      (forest.read resource ⟨compress, false, false⟩ Tables.empty false).map fun passage =>
        (start resource compress).delivered passage.tokens passage.tables :=
    (agrees_of_isPlain forest hplain).of_none (fits_start resource compress) rfl rfl
  rw [EventStream.assemble, Forest.reading]
  cases hfeed : (start resource compress).feed forest.events with
  | error fault =>
      rw [hfeed] at hrun
      cases hread : forest.read resource ⟨compress, false, false⟩ Tables.empty false with
      | error found => rw [hread] at hrun; cases hrun; rfl
      | ok passage => rw [hread] at hrun; cases hrun
  | ok final =>
      rw [hfeed] at hrun
      cases hread : forest.read resource ⟨compress, false, false⟩ Tables.empty false with
      | error found => rw [hread] at hrun; cases hrun
      | ok passage =>
          rw [hread] at hrun
          have hfinal : final.settled =
              (start resource compress).delivered passage.tokens passage.tables := by
            simpa [Except.map] using hrun
          have htemplate : final.template =
              ⟨resource, passage.tokens, passage.tables.ids, false, passage.tables.overrides⟩ := by
            rw [← template_settled, hfinal]
            simp [template, settled, Assembly.delivered, start]
          simp [htemplate, bind, Except.bind, pure, Except.pure]

-- A component with a label, text in two pieces, an extension point, a body and a removed content
-- element.
def Forest.greeting : Forest :=
  .element ⟨[⟨some 1, "x", "urn:x"⟩], some 1, none, "div",
      [⟨some Naming.templateUri51, "id", "a"⟩]⟩
    (.text (some 1) "Hello, $\x7b" <| .text (some 2) "name\x7d! " <|
      .element ⟨[], some 2, some Naming.templateUri51, "extension-point", [⟨none, "id", "b"⟩]⟩
        (.cdata (some 3) (some 3) (some 3) "<" .nil) (some 3) <|
      .element ⟨[], some 4, some Naming.templateUri51, "body", []⟩
        (.comment (some 4) " none " .nil) (some 4) <|
      .element ⟨[], some 5, some Naming.templateUri51, "remove", []⟩
        (.element ⟨[], some 5, some Naming.templateUri51, "content", []⟩ .nil (some 5) .nil)
        (some 5) .nil)
    (some 6) .nil

theorem EventStream.assemble_greeting :
    Forest.greeting.isPlain = true ∧ (Forest.greeting.reading "T.tml" true).toBool = true ∧
      (EventStream.mk Forest.greeting.events none).assemble "T.tml" true =
        Forest.greeting.reading "T.tml" true :=
  ⟨by decide +kernel, by decide +kernel, assemble_events Forest.greeting (by decide +kernel) _ _⟩

end TemplateMarkup
