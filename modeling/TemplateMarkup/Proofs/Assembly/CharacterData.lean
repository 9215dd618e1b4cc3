import TemplateMarkup.Proofs.Assembly.Isolation
import TemplateMarkup.Profile

namespace TemplateMarkup

-- Character data that comes in parts, each on a line of its own.
def textEvents (parts : List (Option Nat × String)) : List PlacedEvent :=
  parts.map fun part => ⟨part.1, .text part.2⟩

-- What the parts come to.
def textOf (parts : List (Option Nat × String)) : String :=
  String.join (parts.map (·.2))

-- A character data section around such parts.
def sectionEvents (line : Option Nat) (parts : List (Option Nat × String)) (last : Option Nat) :
    List PlacedEvent :=
  ⟨line, .cdataStart⟩ :: textEvents parts ++ [⟨last, .cdataEnd⟩]

-- An event in front of others. Text takes in the text that follows it.
def PlacedEvent.joinedTo (placed : PlacedEvent) : List PlacedEvent → List PlacedEvent
  | [] => [placed]
  | next :: rest =>
    match placed.event, next.event with
    | .text first, .text second => ⟨placed.line, .text (first ++ second)⟩ :: rest
    | _, _ => placed :: next :: rest

-- Events with one text in place of each run of texts, on the line where the run begins.
def joinTexts (events : List PlacedEvent) : List PlacedEvent :=
  events.foldr PlacedEvent.joinedTo []

variable {assembly : Assembly}

namespace Assembly

theorem step_text_of_inBody (hidle : assembly.isIdle = false) (hbody : assembly.inBody = true)
    (line : Option Nat) (content : String) :
    assembly.step ⟨line, .text content⟩ =
      .refused (.misplaced .contentInsideBody (assembly.place line)) assembly := by
  simp [step, react_characters, characters_eq, hidle, hbody]

theorem step_text_of_counting (hidle : assembly.isIdle = false) (hbody : assembly.inBody = false)
    (line : Option Nat) (content : String) :
    assembly.step ⟨line, .text content⟩ =
      .accepted { assembly with
        pending := some (assembly.gathered content (assembly.place line)) } := by
  simp [step, react_characters, characters_eq, hidle, hbody, gathered]

-- Text that is pending stays where it began when more comes.
theorem step_text_of_pending (hidle : assembly.isIdle = false) (hbody : assembly.inBody = false)
    (pending : PendingText) (line : Option Nat) (content : String) :
    { assembly with pending := some pending }.step ⟨line, .text content⟩ =
      .accepted { assembly with
        pending := some ⟨pending.text ++ content, pending.location⟩ } := by
  have hidle' : { assembly with pending := some pending }.isIdle = false := hidle
  rw [step_text_of_counting hidle' hbody]
  rfl

-- Text that is taken in leaves the assembly ready for more, and both parts lead where the text as
-- a whole does. The line of the second part is not looked at.
theorem step_text_step {line : Option Nat} {first : String}
    (hfirst : (assembly.step ⟨line, .text first⟩).fault = none) (other : Option Nat)
    (second : String) :
    (assembly.step ⟨line, .text first⟩).next.step ⟨other, .text second⟩ =
      assembly.step ⟨line, .text (first ++ second)⟩ := by
  cases hidle : assembly.isIdle with
  | true =>
      rw [step_of_isIdle hidle line rfl rfl, step_of_isIdle hidle line rfl rfl]
      exact step_of_isIdle hidle other rfl rfl
  | false =>
      cases hbody : assembly.inBody with
      | true =>
          rw [step_text_of_inBody hidle hbody] at hfirst
          cases hfirst
      | false =>
          have hsecond := step_text_of_pending hidle hbody
            (assembly.gathered first (assembly.place line)) other second
          rw [step_text_of_counting hidle hbody, step_text_of_counting hidle hbody]
          simp only [gathered, String.append_assoc] at hsecond ⊢
          exact hsecond

-- Whether text is taken in does not depend on the text.
theorem fault_text (assembly : Assembly) (line : Option Nat) (first second : String) :
    (assembly.step ⟨line, .text first⟩).fault = (assembly.step ⟨line, .text second⟩).fault := by
  cases hidle : assembly.isIdle with
  | true => rw [step_of_isIdle hidle line rfl rfl, step_of_isIdle hidle line rfl rfl]
  | false =>
      cases hbody : assembly.inBody with
      | true => rw [step_text_of_inBody hidle hbody, step_text_of_inBody hidle hbody]
      | false =>
          rw [step_text_of_counting hidle hbody, step_text_of_counting hidle hbody]
          rfl

theorem feed_joinedTo (assembly : Assembly) (placed : PlacedEvent) (rest : List PlacedEvent) :
    assembly.feed (placed.joinedTo rest) = assembly.feed (placed :: rest) := by
  unfold PlacedEvent.joinedTo
  split
  · rfl
  · rename_i next rest
    split
    · rename_i first second hplaced hnext
      obtain ⟨line, event⟩ := placed
      obtain ⟨other, following⟩ := next
      obtain rfl : event = .text first := hplaced
      obtain rfl : following = .text second := hnext
      have hboth := assembly.fault_text line (first ++ second) first
      cases hfault : (assembly.step ⟨line, .text first⟩).fault with
      | some fault => rw [feed_of_fault (hboth.trans hfault), feed_of_fault hfault]
      | none =>
          have hstep := step_text_step hfault other second
          have hsecond : ((assembly.step ⟨line, .text first⟩).next.step
              ⟨other, .text second⟩).fault = none := by
            rw [hstep, hboth, hfault]
          rw [feed_of_no_fault (hboth.trans hfault), feed_of_no_fault hfault,
            feed_of_no_fault hsecond, hstep]
    · rfl

-- How text is cut into events makes no difference to a run.
theorem feed_joinTexts (assembly : Assembly) (events : List PlacedEvent) :
    assembly.feed (joinTexts events) = assembly.feed events := by
  induction events generalizing assembly with
  | nil => rfl
  | cons placed rest ih =>
      rw [joinTexts, List.foldr_cons, feed_joinedTo]
      cases hfault : (assembly.step placed).fault with
      | some fault => rw [feed_of_fault hfault, feed_of_fault hfault]
      | none =>
          rw [feed_of_no_fault hfault, feed_of_no_fault hfault]
          exact ih _

end Assembly

-- Two supplies that differ in the cuts of their texts alone are assembled to the same template, or
-- fail for the same fault.
theorem EventStream.assemble_joinTexts (stream : EventStream) (resource : String)
    (compress : Bool) :
    { stream with events := joinTexts stream.events }.assemble resource compress =
      stream.assemble resource compress := by
  simp only [EventStream.assemble, Assembly.feed_joinTexts]

namespace Assembly

-- No events tell two assemblies apart, neither by what becomes of each of them nor by the
-- template behind them.
def Indistinguishable (first second : Assembly) : Prop :=
  ∀ events, first.faults events = second.faults events ∧
    (first.after events).template = (second.after events).template

-- Where a text is taken in, so is the text that follows it, and so is the text made of both. No
-- event after that tells whether the text has come in two parts or as a whole.
theorem text_parts_indistinguishable {line : Option Nat} {first : String}
    (hfirst : (assembly.step ⟨line, .text first⟩).fault = none) (other : Option Nat)
    (second : String) :
    let apart : List PlacedEvent := [⟨line, .text first⟩, ⟨other, .text second⟩]
    let whole : List PlacedEvent := [⟨line, .text (first ++ second)⟩]
    assembly.faults apart = [none, none] ∧ assembly.faults whole = [none] ∧
      (assembly.after apart).Indistinguishable (assembly.after whole) := by
  intro apart whole
  have hstep := step_text_step hfirst other second
  have hwhole : (assembly.step ⟨line, .text (first ++ second)⟩).fault = none :=
    (assembly.fault_text line (first ++ second) first).trans hfirst
  have hafter : assembly.after apart = assembly.after whole :=
    congrArg Reaction.next hstep
  refine ⟨?_, ?_, fun events => ?_⟩
  · simp only [apart, faults, hfirst, hstep, hwhole]
  · simp only [whole, faults, hwhole]
  · rw [hafter]
    exact ⟨rfl, rfl⟩

-- A paragraph with text that is pending.
def openParagraph : Assembly :=
  (start "T.tml" true).after [
    ⟨some 1, .elementStart none "p" []⟩, ⟨some 2, .text "a\n "⟩]

-- The cut goes through the mark of a placeholder, and the line of its second part is not known.
theorem indistinguishable_cutPlaceholder :
    (openParagraph.step ⟨some 3, .text " $"⟩).fault = none ∧
      let apart : List PlacedEvent := [⟨some 3, .text " $"⟩, ⟨none, .text "\x7bb\x7d "⟩]
      let whole : List PlacedEvent := [⟨some 3, .text (" $" ++ "\x7bb\x7d ")⟩]
      openParagraph.faults apart = [none, none] ∧ openParagraph.faults whole = [none] ∧
        (openParagraph.after apart).Indistinguishable (openParagraph.after whole) := by
  have hfirst : (openParagraph.step ⟨some 3, .text " $"⟩).fault = none := by decide +kernel
  exact ⟨hfirst, text_parts_indistinguishable hfirst none "\x7bb\x7d "⟩

-- All parts behind pending text join it, on whatever lines they stand.
theorem feed_textEvents (hidle : assembly.isIdle = false) (hbody : assembly.inBody = false)
    (pending : PendingText) (parts : List (Option Nat × String)) (rest : List PlacedEvent) :
    { assembly with pending := some pending }.feed (textEvents parts ++ rest) =
      { assembly with
        pending := some ⟨pending.text ++ textOf parts, pending.location⟩ }.feed rest := by
  induction parts generalizing pending with
  | nil => simp [textEvents, textOf]
  | cons part parts ih =>
      have hstep := step_text_of_pending hidle hbody pending part.1 part.2
      have hrest := ih ⟨pending.text ++ part.2, pending.location⟩
      rw [textEvents, List.map_cons, List.cons_append, feed_of_accepted hstep]
      simp only [textOf, List.map_cons, String.join_cons, ← String.append_assoc]
      exact hrest

-- An assembly behind a character data section: what was pending is settled, and the section is one
-- more token.
def behindSection (assembly : Assembly) (content : String) (location : Location) : Assembly :=
  { assembly with
    tokens := assembly.tokens ++ assembly.settlement ++ #[⟨.cdata content, location⟩]
    pending := none }

theorem template_behindSection (assembly : Assembly) (content : String) (location : Location) :
    (assembly.behindSection content location).template =
      { assembly.template with
        tokens := assembly.template.tokens ++ #[⟨.cdata content, location⟩] } := by
  have hpending : (assembly.behindSection content location).pending = none := rfl
  simp only [template, settled_of_none hpending, settled_eq assembly]
  rfl

-- Between its borders the parts of a section gather as text does elsewhere. They are one token of
-- their own since nothing is pending where the section begins.
theorem feed_sectionEvents (hidle : assembly.isIdle = false) (hbody : assembly.inBody = false)
    (line : Option Nat) (parts : List (Option Nat × String)) (last : Option Nat)
    (rest : List PlacedEvent) :
    assembly.feed (sectionEvents line parts last ++ rest) =
      (assembly.behindSection (textOf parts) (assembly.place line)).feed rest := by
  let flushed := { assembly with tokens := assembly.tokens ++ assembly.settlement }
  have hflushed : flushed.isIdle = false := hidle
  have hstart : assembly.step ⟨line, .cdataStart⟩ =
      .accepted { flushed with pending := some ⟨"", assembly.place line⟩ } := by
    simp only [step, cdataStart, hidle, settled_eq]
    rfl
  have hend : { flushed with pending := some ⟨textOf parts, assembly.place line⟩ }.step
      ⟨last, .cdataEnd⟩ =
        .accepted (assembly.behindSection (textOf parts) (assembly.place line)) := by
    have hinside : { flushed with
        pending := some ⟨textOf parts, assembly.place line⟩ }.isIdle = false := hidle
    simp only [step, cdataEnd, hinside]
    rfl
  have hparts := feed_textEvents hflushed hbody ⟨"", assembly.place line⟩ parts
    (⟨last, .cdataEnd⟩ :: rest)
  rw [String.empty_append] at hparts
  rw [sectionEvents, List.append_assoc, List.cons_append, feed_of_accepted hstart,
    List.singleton_append, hparts, feed_of_accepted hend]

-- Where character data counts, a section is carried as it is. Every event of it is taken in. What
-- was pending settles in front of it, and behind that stands one token with all parts of the
-- section, on the line of its start. Nothing else changes and no text is left pending, whatever
-- the white space setting, and whatever the parts hold.
theorem section_verbatim (hidle : assembly.isIdle = false) (hbody : assembly.inBody = false)
    (line : Option Nat) (parts : List (Option Nat × String)) (last : Option Nat) :
    let token : Token := ⟨.cdata (String.join (parts.map (·.2))), ⟨assembly.resource, line⟩⟩
    let behind := { assembly with
      tokens := assembly.tokens ++ assembly.settlement ++ #[token]
      pending := none }
    assembly.feed (sectionEvents line parts last) = .ok behind ∧
      behind.template =
        { assembly.template with tokens := assembly.template.tokens ++ #[token] } := by
  intro token behind
  have hfeed := feed_sectionEvents hidle hbody line parts last []
  rw [List.append_nil] at hfeed
  exact ⟨hfeed, assembly.template_behindSection _ _⟩

-- Behind pending text, with a placeholder and white space in its parts.
theorem section_verbatim_inParagraph :
    openParagraph.isIdle = false ∧ openParagraph.inBody = false ∧
      let parts : List (Option Nat × String) :=
        [(some 4, "$\x7bb"), (none, "\x7d  "), (some 9, "\t\n")]
      let token : Token := ⟨.cdata "$\x7bb\x7d  \t\n", ⟨"T.tml", some 3⟩⟩
      let behind := { openParagraph with
        tokens := openParagraph.tokens ++ openParagraph.settlement ++ #[token]
        pending := none }
      openParagraph.feed (sectionEvents (some 3) parts (some 9)) = .ok behind ∧
        behind.template = { openParagraph.template with
          tokens := openParagraph.template.tokens ++ #[token] } := by
  have hidle : openParagraph.isIdle = false := by decide +kernel
  have hbody : openParagraph.inBody = false := by decide +kernel
  exact ⟨hidle, hbody, section_verbatim hidle hbody (some 3)
    [(some 4, "$\x7bb"), (none, "\x7d  "), (some 9, "\t\n")] (some 9)⟩

end Assembly

end TemplateMarkup
