import TemplateMarkup.Proofs.Assembly.Refusal
import TemplateMarkup.Proofs.Entities.Permanence
import TemplateMarkup.Proofs.Markup.Lines

namespace TemplateMarkup

variable {fault : Fault}

section LineFeeds

theorem ofNat_ne_lineFeed {n : Nat} (hlt : n < 256) (hne : n ≠ 10) : UInt8.ofNat n ≠ 10 := by
  intro he
  have hnat := congrArg UInt8.toNat he
  rw [UInt8.toNat_ofNat_of_lt' hlt] at hnat
  exact hne hnat

-- Only a line feed has the byte of a line feed in its encoding: in the encodings of more than one
-- byte, each byte has its highest bit set.
theorem count_utf8EncodeChar (c : Char) : (String.utf8EncodeChar c).count 10 = [c].count '\n' := by
  have hfeed : c = '\n' ↔ c.val.toNat = 10 := by
    rw [← Char.val_inj, ← UInt32.toNat_inj]
    rfl
  have hother : c ≠ '\n' → [c].count '\n' = 0 := fun hc =>
    List.count_eq_zero_of_not_mem (by simpa using Ne.symm hc)
  unfold String.utf8EncodeChar
  dsimp only
  split
  · rename_i hshort
    by_cases hc : c = '\n'
    · rw [hfeed.mp hc, hc]
      rfl
    · have hne := ofNat_ne_lineFeed (by omega) (mt hfeed.mpr hc)
      rw [hother hc]
      exact List.count_eq_zero_of_not_mem (by simpa using Ne.symm hne)
  · rename_i hlong
    rw [hother fun hc => hlong (by rw [hfeed.mp hc]; decide)]
    refine List.count_eq_zero_of_not_mem fun hm => ?_
    have hhigh : ∀ n, n < 256 → 128 ≤ n → (10 : UInt8) ≠ UInt8.ofNat n := fun n hlt hle =>
      Ne.symm (ofNat_ne_lineFeed hlt (by omega))
    split at hm
    · simp only [List.mem_cons, List.not_mem_nil, or_false] at hm
      rcases hm with h | h <;> exact hhigh _ (by omega) (by omega) h
    · split at hm
      · simp only [List.mem_cons, List.not_mem_nil, or_false] at hm
        rcases hm with h | h | h <;> exact hhigh _ (by omega) (by omega) h
      · simp only [List.mem_cons, List.not_mem_nil, or_false] at hm
        rcases hm with h | h | h | h <;> exact hhigh _ (by omega) (by omega) h

-- The line feeds of a text can be counted in its bytes.
theorem count_toUTF8 (text : String) : text.toUTF8.data.count 10 = text.toList.count '\n' := by
  have hbytes : text.toUTF8.data.toList = text.toList.flatMap String.utf8EncodeChar := by
    conv_lhs => rw [← String.ofList_toList (s := text)]
    rw [String.toUTF8_eq_toByteArray, String.toByteArray_ofList, List.utf8Encode,
      List.toList_data_toByteArray]
  have hcount : ∀ chars : List Char,
      (chars.flatMap String.utf8EncodeChar).count 10 = chars.count '\n' := by
    intro chars
    induction chars with
    | nil => rfl
    | cons c rest ih =>
        rw [List.flatMap_cons, List.count_append, ih, count_utf8EncodeChar, ← List.count_append]
        rfl
  rw [← Array.count_toList, hbytes, hcount]

theorem one_le_lineIn (bytes : Array UInt8) (position : Nat) : 1 ≤ Markup.lineIn bytes position :=
  Nat.le_add_right 1 _

theorem lineIn_le (bytes : Array UInt8) (position : Nat) :
    Markup.lineIn bytes position ≤ 1 + bytes.count 10 := by
  have hwhole : Markup.lineIn bytes bytes.size = 1 + bytes.count 10 := by
    rw [Markup.lineIn, Array.extract_eq_self_of_le (Nat.le_refl _)]
  have hsum := Markup.lineIn_add bytes (Nat.min_le_right position bytes.size)
  rw [Markup.lineIn_min_size] at hsum
  omega

end LineFeeds

namespace Entities

variable {fetch : String → Except Fault (Option String)} {below : Entities → String → Intake}

-- A fault that comes from fetching some definition.
def IsFetchFault (fetch : String → Except Fault (Option String)) (fault : Fault) : Prop :=
  ∃ publicId, fetch publicId = .error fault

theorem isFetchFault_of_consultWith
    (hbelow : ∀ entities text, (below entities text).fault = some fault → IsFetchFault fetch fault)
    {entities : Entities} {publicId : String}
    (h : (consultWith fetch below entities publicId).known = .error fault) :
    IsFetchFault fetch fault := by
  unfold consultWith consultWithM at h
  dsimp only [bind, pure] at h
  split at h
  · cases h
  · split at h
    · rename_i hfetch
      cases h
      exact ⟨publicId, hfetch⟩
    · cases h
    · unfold Intake.answer at h
      split at h
      · rename_i hintake
        cases h
        exact hbelow _ _ hintake
      · cases h

theorem isFetchFault_of_bringIn
    (hbelow : ∀ entities text, (below entities text).fault = some fault → IsFetchFault fetch fault)
    {entities : Entities} {name : String}
    (h : (bringIn fetch below entities name).fault = some fault) : IsFetchFault fetch fault := by
  unfold bringIn bringInM at h
  dsimp only [bind, pure] at h
  split at h
  · exact hbelow _ _ h
  · unfold Consultation.intake at h
    split at h
    · rename_i hknown
      cases h
      exact isFetchFault_of_consultWith hbelow hknown
    · cases h
  · cases h

theorem isFetchFault_of_declareAll
    (hbelow : ∀ entities text, (below entities text).fault = some fault → IsFetchFault fetch fault)
    {declarations : List Dtd.Declaration} {entities : Entities}
    (h : (declareAll fetch below declarations entities).fault = some fault) :
    IsFetchFault fetch fault := by
  induction declarations generalizing entities with
  | nil => cases h
  | cons declaration more ih =>
      cases declaration with
      | general name value => exact ih h
      | parameter name entity => exact ih h
      | reference name =>
          rw [declareAll_reference] at h
          split at h
          · exact isFetchFault_of_bringIn hbelow h
          · exact ih h

-- However deep definitions are nested, nothing but fetching them can go wrong.
theorem isFetchFault_of_takeInWithin {levels : Nat} {entities : Entities} {text : String}
    (h : (takeInWithin fetch levels entities text).fault = some fault) :
    IsFetchFault fetch fault := by
  induction levels generalizing entities text with
  | zero => cases h
  | succ levels ih => exact isFetchFault_of_declareAll (fun _ _ => ih) h

end Entities

-- A catalog does not know who asks.
theorem Catalog.fault_of_fetch {catalog : Catalog} {files : FileSystem} {publicId : String}
    (h : catalog.fetch files publicId = .error fault) :
    ∃ path failure, fault = .unreachableResource publicId path failure none := by
  unfold fetch at h
  split at h
  · cases h
  · cases h
  · split at h
    · cases h
    · cases h
      exact ⟨_, _, rfl⟩

namespace Markup

open Entities (IsFetchFault)
open Reference (byteCount)

variable {around : Surroundings} {reading : Reading} {bytes : Array UInt8}

-- Faults in fetching a definition leave it open where it is asked for.
def Surroundings.LeavesPlace (around : Surroundings) : Prop :=
  ∀ fault, IsFetchFault around.fetch fault → ∀ location,
    (blame location fault).location? = some location

-- A fault that names the line of a position.
def PlacedIn (resource : String) (bytes : Array UInt8) (fault : Fault) : Prop :=
  ∃ position, fault.location? = some ⟨resource, some (lineIn bytes position)⟩

theorem isFetchFault_of_takeDoctype {fetch : String → Except Fault (Option String)}
    {entities : Entities} {doctype : Doctype}
    (h : (takeDoctype fetch entities doctype).fault = some fault) : IsFetchFault fetch fault := by
  rw [Entities.takeDoctype_eq_andThen, Entities.Intake.andThen] at h
  split at h
  · cases hsubset : doctype.subset with
    | none =>
        rw [hsubset] at h
        cases h
    | some subset =>
        rw [hsubset] at h
        exact Entities.isFetchFault_of_takeInWithin h
  · cases hnamed : doctype.publicId with
    | none =>
        rw [hnamed] at h
        cases h
    | some publicId =>
        rw [hnamed, Option.elim_some, Entities.Consultation.intake] at h
        split at h
        · rename_i hknown
          cases h
          exact Entities.isFetchFault_of_consultWith
            (fun _ _ => Entities.isFetchFault_of_takeInWithin) hknown
        · cases h

theorem location?_of_readDoctype {line : Nat} {content : List Char} (haround : around.LeavesPlace)
    (h : readDoctype around reading line content = .error fault) :
    fault.location? = some ⟨around.resource, some line⟩ := by
  unfold readDoctype readDoctypeM doctypeEvents at h
  dsimp only [bind, pure, Cutter.plain] at h
  split at h
  · rename_i taken
    cases h
    exact haround _ (isFetchFault_of_takeDoctype taken) _
  · cases h

theorem location?_of_readText {line : Nat} {raw : List Char}
    (h : readText around reading line raw = .error fault) :
    fault.location? = some ⟨around.resource, some line⟩ := by
  unfold readText at h
  split at h
  · cases h
    rfl
  · cases h

theorem location?_of_readEndTag {line lineAfter : Nat} {name : List Char}
    (h : readEndTag around reading line lineAfter name = .error fault) :
    fault.location? = some ⟨around.resource, some lineAfter⟩ := by
  unfold readEndTag at h
  split at h
  · cases h
    rfl
  · split at h
    · cases h
    · cases h
      rfl

theorem location?_of_readStartTag {line lineAfter : Nat} {content : List Char} {isEmpty : Bool}
    (h : readStartTag around reading line lineAfter content isEmpty = .error fault) :
    fault.location? = some ⟨around.resource, some line⟩ ∨
      fault.location? = some ⟨around.resource, some lineAfter⟩ := by
  unfold readStartTag at h
  split at h
  · cases h
    exact .inr rfl
  · split at h
    · cases h
      exact .inl rfl
    · split at h
      · cases h
        exact .inl rfl
      · dsimp only at h
        split at h <;> cases h

-- A chunk that cannot be read is to blame where it begins or where it ends.
theorem Reading.Counts.placedIn {chunk : Chunk} (hcounts : reading.Counts bytes)
    (haround : around.LeavesPlace) (h : readChunk around reading chunk = .error fault) :
    PlacedIn around.resource bytes fault := by
  have hline : fault.location? =
      some ⟨around.resource, some (reading.cursor.moveTo reading.position).line⟩ →
        PlacedIn around.resource bytes fault := fun hlocation =>
    ⟨reading.position, by rw [hlocation, hcounts.line]⟩
  have hafter : fault.location? =
      some ⟨around.resource, some ((reading.cursor.moveTo reading.position).moveTo
        (reading.position + byteCount chunk.raw)).line⟩ →
        PlacedIn around.resource bytes fault := fun hlocation =>
    ⟨reading.position + byteCount chunk.raw, by rw [hlocation, hcounts.lineAfter]⟩
  unfold readChunk readChunkM at h
  dsimp only [bind, pure, Cutter.plain] at h
  split at h
  · cases h
    exact hafter rfl
  · split at h
    · exact hline (location?_of_readText h)
    · exact (location?_of_readStartTag h).elim hline hafter
    · exact hafter (location?_of_readEndTag h)
    · cases h
    · cases h
    · exact hline (location?_of_readDoctype haround h)
    · cases h

-- All events of a supply, and the fault that may end it, name lines of some bytes.
structure Traceable (resource : String) (bytes : Array UInt8) (stream : EventStream) : Prop where
  events : ∀ placed ∈ stream.events, ∃ position, placed.line = some (lineIn bytes position)
  failure : ∀ failure, stream.failure = some failure → PlacedIn resource bytes failure.fault

theorem Traceable.prepend {resource : String} {events : List PlacedEvent} {stream : EventStream}
    (h : Traceable resource bytes stream)
    (hevents : ∀ placed ∈ events, ∃ position, placed.line = some (lineIn bytes position)) :
    Traceable resource bytes (stream.prepend events) where
  events := List.forall_mem_append.mpr ⟨hevents, h.events⟩
  failure := h.failure

theorem Begins.exists_line {piece : Piece} {first last : Nat} {events : List PlacedEvent}
    (h : Begins piece (lineIn bytes first) (lineIn bytes last) events) :
    ∀ placed ∈ events, ∃ position, placed.line = some (lineIn bytes position) := by
  intro placed hm
  cases hown : isOwnEnd piece placed.event with
  | false => exact ⟨first, h.own placed hm hown⟩
  | true => exact ⟨last, h.ends placed hm hown⟩

theorem traceable_readChunks (haround : around.LeavesPlace) (found : List Chunk)
    (hcounts : reading.Counts bytes) :
    Traceable around.resource bytes (readChunks around found reading) := by
  induction found generalizing reading with
  | nil =>
      rw [readChunks_nil]
      refine ⟨List.forall_mem_singleton.mpr ⟨reading.position, ?_⟩, nofun⟩
      rw [hcounts.line]
  | cons chunk more ih =>
      rw [readChunks_cons]
      cases hread : readChunk around reading chunk with
      | error fault =>
          refine ⟨by simp [EventStream.failing], fun failure hfailure => ?_⟩
          cases hfailure
          exact hcounts.placedIn haround hread
      | ok result =>
          obtain ⟨events, next⟩ := result
          obtain ⟨piece, -, -, hbegins⟩ := hcounts.begins hread
          exact (ih (hcounts.next hread)).prepend hbegins.exists_line

theorem traceable_events (haround : around.LeavesPlace) (text : String) :
    Traceable around.resource text.toUTF8.data (events around text) := by
  refine (traceable_readChunks haround _ (Reading.counts_ofText text)).prepend ?_
  exact List.forall_mem_singleton.mpr ⟨0, by simp [lineIn]⟩

end Markup

-- A fault that is already placed is reported as it is.
theorem StreamFailure.report_of_located {failure : StreamFailure} {location : Location}
    (h : failure.fault.location? = some location) (resource : String) :
    failure.report resource = failure.fault := by
  unfold report
  split
  · rename_i hfault
    rw [hfault] at h
    cases h
  · rfl

-- What goes wrong with a supply of events that name lines is placed on one of these.
theorem EventStream.placedIn_of_assemble {stream : EventStream} {resource : String}
    {compress : Bool} {bytes : Array UInt8} (hstream : Markup.Traceable resource bytes stream)
    (h : stream.assemble resource compress = .error fault) :
    Markup.PlacedIn resource bytes fault := by
  unfold assemble at h
  split at h
  · rename_i hfeed
    cases h
    obtain ⟨placed, hm, hlocation⟩ := Assembly.location?_of_feed hfeed
    obtain ⟨position, hline⟩ := hstream.events placed hm
    exact ⟨position, by rw [hlocation, hline]; rfl⟩
  · split at h
    · rename_i failure hfailure
      cases h
      obtain ⟨position, hlocation⟩ := hstream.failure failure hfailure
      exact ⟨position, by rw [failure.report_of_located hlocation, hlocation]⟩
    · cases h

namespace Profile

variable {profile : Profile} {files : FileSystem} {resource text : String}

-- Whatever is wrong with a document, be it in its markup, in a definition that it brings in or in
-- what its elements say, the fault names a line that the document has.
theorem location?_of_parseText (h : profile.parseText files resource text = .error fault) :
    ∃ line, fault.location? = some ⟨resource, some line⟩ ∧ 1 ≤ line ∧
      line ≤ 1 + text.toList.count '\n' := by
  have haround : Markup.Surroundings.LeavesPlace ⟨resource, profile.catalog.fetch files⟩ := by
    rintro fault ⟨publicId, hfetch⟩ location
    obtain ⟨path, failure, rfl⟩ := Catalog.fault_of_fetch hfetch
    rfl
  obtain ⟨position, hlocation⟩ :=
    EventStream.placedIn_of_assemble (Markup.traceable_events haround text) h
  refine ⟨_, hlocation, one_le_lineIn _ _, ?_⟩
  rw [← count_toUTF8]
  exact lineIn_le _ _

-- A document type that brings in a definition from a file that is not there.
def missingDefinition : String :=
  "\n<!DOCTYPE a [\n<!ENTITY % p PUBLIC \"-//U//W\" \"w\">\n%p; ]>\n<a/>"

theorem location?_missingDefinition :
    ∃ fault, (Profile.mk true (Catalog.empty.addFile "-//U//W" "w")).parseText
        (fun _ => .error .notFound) "T.tml" missingDefinition = .error fault ∧
      ∃ line, fault.location? = some ⟨"T.tml", some line⟩ ∧ 1 ≤ line ∧
        line ≤ 1 + missingDefinition.toList.count '\n' := by
  have hrejected : ((Profile.mk true (Catalog.empty.addFile "-//U//W" "w")).parseText
      (fun _ => .error .notFound) "T.tml" missingDefinition).toBool = false := by
    decide +kernel
  cases hparse : (Profile.mk true (Catalog.empty.addFile "-//U//W" "w")).parseText
      (fun _ => .error .notFound) "T.tml" missingDefinition with
  | ok template =>
      rw [hparse] at hrejected
      cases hrejected
  | error fault => exact ⟨fault, rfl, location?_of_parseText hparse⟩

end Profile

end TemplateMarkup
