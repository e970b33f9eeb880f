import Mathlib
import HlsManifest.Proofs.EventReplay

/-!
# The record law of line events

The events of a manifest can be said record by record, against the buffer itself. Split the
buffer on newlines and drop one carriage return from the end of each piece: these are its lines,
numbered from 1, each starting where the earlier pieces and their newlines end (`Record.start`).
There is one event for each non-empty line after the first, in order, and `Event.Law` says which:
a line that starts with the prefix of a recognized tag has its value after the prefix, an
`#EXTINF` value has its duration before the first comma and its title after it, and any other line
is addressed whole.

Main statement: `Event.list_follows_record_law`. Each event obeys the law for its line, and each
of its spans lies inside the buffer and addresses exactly the text the law names. The spans are
computed from record offsets and prefix lengths, so the proof locates every record in the buffer
(`Record.split_eq_lines`, `Record.occursAt_of_mem_split`).
-/

set_option autoImplicit false

namespace HlsManifest

namespace Bytes

/-- Splitting at the first separator gives the text before it, free of separators, and the text
after it; finding none means there is none. -/
theorem splitAtFirst_spec (separator : UInt8) (text : Bytes) :
    match splitAtFirst separator text with
    | some (before, after) => text = before ++ separator :: after ∧ separator ∉ before
    | none => separator ∉ text := by
  unfold splitAtFirst
  cases found : text.idxOf? separator with
  | none => exact List.idxOf?_eq_none_iff.mp found
  | some index =>
      obtain ⟨within, atIndex, earlier⟩ := List.idxOf?_eq_some_iff.mp found
      refine ⟨?_, fun member => ?_⟩
      · conv => lhs; rw [← List.take_append_drop index text]
        rw [List.drop_eq_getElem_cons within, atIndex]
      · obtain ⟨position, below, atPosition⟩ := List.getElem_of_mem member
        rw [List.length_take] at below
        rw [List.getElem_take] at atPosition
        exact earlier position (by omega) atPosition

end Bytes

namespace Directive

/-- A line recognized as a tag starts with the prefix listed for that tag, and its value starts
right after the prefix. -/
theorem recognize_tagged {text : Bytes} {kind : Directive} {start : Nat}
    (recognized : recognize text = (kind, start))
    (tagged : kind ≠ .unsupported ∧ kind ≠ .comment ∧ kind ≠ .uri) :
    ∃ tagPrefix, (tagPrefix, kind) ∈ tags ∧ tagPrefix <+: text ∧ start = tagPrefix.length := by
  unfold recognize at recognized
  split at recognized
  · split at recognized
    · next tagPrefix found foundEq =>
        simp only [Prod.mk.injEq] at recognized
        obtain ⟨rfl, rfl⟩ := recognized
        have starts := List.find?_some foundEq
        exact ⟨tagPrefix, List.mem_of_find?_eq_some foundEq,
          List.isPrefixOf_iff_prefix.mp starts, rfl⟩
    · split at recognized <;> simp only [Prod.mk.injEq] at recognized <;>
        exact absurd recognized.1.symm (by simp [tagged])
  · simp only [Prod.mk.injEq] at recognized
    exact absurd recognized.1.symm tagged.2.2

/-- A line recognized as a URI does not start with `#`, and is its own value. -/
theorem recognize_uri {text : Bytes} {start : Nat} (recognized : recognize text = (.uri, start)) :
    text.head? ≠ some 35 ∧ start = 0 := by
  unfold recognize at recognized
  split at recognized
  · split at recognized
    · next tagPrefix kind found foundEq =>
        simp only [Prod.mk.injEq] at recognized
        obtain ⟨rfl, -⟩ := recognized
        have member := List.mem_of_find?_eq_some foundEq
        simp [tags] at member
    · split at recognized <;> simp at recognized
  · next notHash =>
      simp only [Prod.mk.injEq] at recognized
      refine ⟨fun hash => ?_, recognized.2.symm⟩
      cases text with
      | nil => cases hash
      | cons first rest =>
          rw [List.head?_cons, Option.some.injEq] at hash
          exact notHash rest (by rw [hash])

/-- A line that is neither a recognized tag nor a URI starts with `#` and with no listed prefix,
and is its own value. -/
theorem recognize_untagged {text : Bytes} {kind : Directive} {start : Nat}
    (recognized : recognize text = (kind, start)) (untagged : kind = .unsupported ∨ kind = .comment) :
    text.head? = some 35 ∧ (∀ tag ∈ tags, ¬tag.1 <+: text) ∧ start = 0 := by
  unfold recognize at recognized
  split at recognized
  · next rest =>
      split at recognized
      · next tagPrefix found foundEq =>
          simp only [Prod.mk.injEq] at recognized
          obtain ⟨rfl, -⟩ := recognized
          have member := List.mem_of_find?_eq_some foundEq
          rcases untagged with rfl | rfl <;> simp [tags] at member
      · next missing =>
          refine ⟨rfl, fun tag member isPrefix => ?_, ?_⟩
          · have never := List.find?_eq_none.mp missing tag member
            exact never (List.isPrefixOf_iff_prefix.mpr isPrefix)
          · split at recognized <;> simp only [Prod.mk.injEq] at recognized <;>
              exact recognized.2.symm
  · simp only [Prod.mk.injEq] at recognized
    rcases untagged with rfl | rfl <;> cases recognized.1

end Directive

/-- An `#EXTINF` value is its duration text and nothing else when it holds no comma, and
otherwise the duration text, free of commas, then a comma and the title. -/
theorem extInfFields_spec (value : Bytes) :
    match extInfFields value with
    | (duration, some title) => value = duration ++ 44 :: title ∧ 44 ∉ duration
    | (duration, none) => duration = value ∧ 44 ∉ value := by
  have spec := Bytes.splitAtFirst_spec 44 value
  unfold extInfFields
  split at spec
  · next before after found => simpa [found] using spec
  · next missing => simpa [missing] using spec

namespace Record

/-- Where line `index` of a buffer starts, counted from 0: after the earlier pieces and the
newline that ends each of them. -/
def start (data : Bytes) (index : Nat) : Nat :=
  (((data.splitOn Bytes.newline).take index).map fun piece => piece.length + 1).sum

/-- The record at each position of a numbering: its line and offset count the pieces before it,
each with its newline. -/
theorem getElem?_number (line offset : Nat) (pieces : List Bytes) (index : Nat) :
    (number line offset pieces)[index]? = pieces[index]?.map fun piece =>
      ⟨line + index, offset + ((pieces.take index).map fun piece => piece.length + 1).sum,
        dropCarriageReturn piece⟩ := by
  induction pieces generalizing line offset index with
  | nil => simp [number]
  | cons piece rest ih =>
      cases index with
      | zero => simp [number]
      | succ index =>
          simp only [number, List.getElem?_cons_succ, ih, List.take_succ_cons, List.map_cons,
            List.sum_cons]
          congr 2
          funext later
          congr 1 <;> omega

/-- The records of a buffer are its lines, the `index`-th numbered `index + 1` and standing at
`start data index`. -/
theorem split_eq_lines (data : Bytes) :
    split data = (lines data).zipIdx.map fun entry => ⟨entry.2 + 1, start data entry.2, entry.1⟩ := by
  apply List.ext_getElem?
  intro index
  rw [split, getElem?_number, List.getElem?_map, List.getElem?_zipIdx, lines, List.getElem?_map,
    pieces_eq_splitOn]
  cases (data.splitOn Bytes.newline)[index]? with
  | none => rfl
  | some piece => simp [start, Nat.add_comm]

/-- The body of a buffer is made of its non-empty lines after the first, each numbered and placed
as `split_eq_lines` says. -/
theorem body_eq_lines (data : Bytes) :
    body data = (((lines data).zipIdx.drop 1).filter fun entry => !entry.1.isEmpty).map
      fun entry => ⟨entry.2 + 1, start data entry.2, entry.1⟩ := by
  rw [body, split_eq_lines, ← List.map_drop, List.filter_map]
  rfl

end Record

namespace Event

/-- The event law of one line `text`, numbered `line` and starting at byte `offset` of the buffer:
the event the line gives, and the texts its first and second spans address. A line starting with
the prefix that the tag table lists for a tag carries its value after that prefix; an `#EXTINF`
value is cut at its first comma into a duration and a title; a line starting with `#` and no listed
prefix, or with anything but `#`, is addressed whole. A span that addresses nothing is the empty
span at offset zero. -/
inductive Law (line offset : Nat) : Bytes → Event → Bytes → Bytes → Prop
  | targetDuration {tagPrefix : Bytes} (listed : (tagPrefix, .targetDuration) ∈ Directive.tags)
      (value : Bytes) :
      Law line offset (tagPrefix ++ value)
        ⟨.targetDuration, line, ⟨offset + tagPrefix.length, value.length⟩, Span.zero,
          Int64Range.scale Micros.perSecond (Integer.readOrZero value), 0⟩ value []
  | mediaSequence {tagPrefix : Bytes} (listed : (tagPrefix, .mediaSequence) ∈ Directive.tags)
      (value : Bytes) :
      Law line offset (tagPrefix ++ value)
        ⟨.mediaSequence, line, ⟨offset + tagPrefix.length, value.length⟩, Span.zero,
          Integer.readOrZero value, 0⟩ value []
  | endList {tagPrefix : Bytes} (listed : (tagPrefix, .endList) ∈ Directive.tags) (rest : Bytes) :
      Law line offset (tagPrefix ++ rest) ⟨.endList, line, Span.zero, Span.zero, 0, 0⟩ [] []
  | extInf {tagPrefix : Bytes} (listed : (tagPrefix, .extInf) ∈ Directive.tags) (duration : Bytes)
      (noComma : 44 ∉ duration) :
      Law line offset (tagPrefix ++ duration)
        ⟨.extInf, line, ⟨offset + tagPrefix.length, duration.length⟩, Span.zero,
          Micros.readOrZero duration, 0⟩ duration []
  | extInfTitled {tagPrefix : Bytes} (listed : (tagPrefix, .extInf) ∈ Directive.tags)
      (duration title : Bytes) (noComma : 44 ∉ duration) :
      Law line offset (tagPrefix ++ (duration ++ 44 :: title))
        ⟨.extInf, line, ⟨offset + tagPrefix.length, duration.length⟩,
          ⟨offset + tagPrefix.length + duration.length + 1, title.length⟩,
          Micros.readOrZero duration, 0⟩ duration title
  | streamInf {tagPrefix : Bytes} (listed : (tagPrefix, .streamInf) ∈ Directive.tags)
      (value : Bytes) :
      Law line offset (tagPrefix ++ value)
        ⟨.streamInf, line, ⟨offset + tagPrefix.length, value.length⟩, Span.zero,
          (Bandwidth.read value).getD 0, 0⟩ value []
  | uri {text : Bytes} (notHash : text.head? ≠ some 35) :
      Law line offset text ⟨.uri, line, ⟨offset, text.length⟩, Span.zero, 0, 0⟩ text []
  | unknown {text : Bytes} (hash : text.head? = some 35)
      (untagged : ∀ tag ∈ Directive.tags, ¬tag.1 <+: text) :
      Law line offset text ⟨.unknown, line, ⟨offset, text.length⟩, Span.zero, 0, 0⟩ text []

/-- The event of every record obeys the law for the record's line number, offset and bytes. -/
theorem law_ofRecord (record : Record) :
    ∃ first second, Law record.line record.offset record.bytes (ofRecord record) first second := by
  obtain ⟨line, offset, text⟩ := record
  cases recognized : Directive.recognize text with
  | mk kind start =>
      cases kind with
      | targetDuration =>
          obtain ⟨tagPrefix, listed, ⟨value, rfl⟩, rfl⟩ :=
            Directive.recognize_tagged recognized (by simp)
          refine ⟨value, [], ?_⟩
          simp only [ofRecord, recognized, List.drop_left]
          exact .targetDuration listed value
      | mediaSequence =>
          obtain ⟨tagPrefix, listed, ⟨value, rfl⟩, rfl⟩ :=
            Directive.recognize_tagged recognized (by simp)
          refine ⟨value, [], ?_⟩
          simp only [ofRecord, recognized, List.drop_left]
          exact .mediaSequence listed value
      | endList =>
          obtain ⟨tagPrefix, listed, ⟨rest, rfl⟩, rfl⟩ :=
            Directive.recognize_tagged recognized (by simp)
          refine ⟨[], [], ?_⟩
          simp only [ofRecord, recognized]
          exact .endList listed rest
      | extInf =>
          obtain ⟨tagPrefix, listed, ⟨value, rfl⟩, rfl⟩ :=
            Directive.recognize_tagged recognized (by simp)
          have fields := extInfFields_spec value
          cases split : extInfFields value with
          | mk duration title =>
              rw [split] at fields
              cases title with
              | none =>
                  obtain ⟨rfl, noComma⟩ := fields
                  refine ⟨duration, [], ?_⟩
                  simp only [ofRecord, recognized, List.drop_left, split]
                  exact .extInf listed duration noComma
              | some title =>
                  obtain ⟨rfl, noComma⟩ := fields
                  refine ⟨duration, title, ?_⟩
                  simp only [ofRecord, recognized, List.drop_left, split]
                  exact .extInfTitled listed duration title noComma
      | streamInf =>
          obtain ⟨tagPrefix, listed, ⟨value, rfl⟩, rfl⟩ :=
            Directive.recognize_tagged recognized (by simp)
          refine ⟨value, [], ?_⟩
          simp only [ofRecord, recognized, List.drop_left]
          exact .streamInf listed value
      | unsupported =>
          obtain ⟨hash, untagged, rfl⟩ := Directive.recognize_untagged recognized (.inl rfl)
          refine ⟨text, [], ?_⟩
          simp only [ofRecord, recognized]
          exact .unknown hash untagged
      | comment =>
          obtain ⟨hash, untagged, rfl⟩ := Directive.recognize_untagged recognized (.inr rfl)
          refine ⟨text, [], ?_⟩
          simp only [ofRecord, recognized]
          exact .unknown hash untagged
      | uri =>
          obtain ⟨notHash, rfl⟩ := Directive.recognize_uri recognized
          refine ⟨text, [], ?_⟩
          simp only [ofRecord, recognized]
          exact .uri notHash

theorem bytes?_zero (data : Bytes) : Span.zero.bytes? data = some [] := by
  simp [Span.bytes?, Span.cut, Span.zero, Span.Inside]

/-- The value after the prefix of a line that stands in the buffer is addressed by the span that
starts where the prefix ends. -/
theorem bytes?_after_tag {data tagPrefix value : Bytes} {offset : Nat}
    (occurs : Bytes.OccursAt data (tagPrefix ++ value) offset) :
    (⟨offset + tagPrefix.length, value.length⟩ : Span).bytes? data = some value := by
  simpa using Span.bytes?_of_occursAt occurs.right

/-- Every span of an event that obeys the law for a line standing at `offset` in `data` addresses
the text the law names there. -/
theorem Law.addresses {data : Bytes} {line offset : Nat} {text : Bytes} {event : Event}
    {first second : Bytes} (law : Law line offset text event first second)
    (occurs : Bytes.OccursAt data text offset) :
    event.first.bytes? data = some first ∧ event.second.bytes? data = some second := by
  cases law with
  | targetDuration listed value => exact ⟨bytes?_after_tag occurs, bytes?_zero data⟩
  | mediaSequence listed value => exact ⟨bytes?_after_tag occurs, bytes?_zero data⟩
  | endList listed rest => exact ⟨bytes?_zero data, bytes?_zero data⟩
  | extInf listed duration noComma => exact ⟨bytes?_after_tag occurs, bytes?_zero data⟩
  | @extInfTitled tagPrefix listed duration title noComma =>
      -- the indices `first` and `second` are the duration and the title: the line is the prefix
      -- and the duration, then the comma and the title
      rw [← List.append_assoc] at occurs
      have comma : Bytes.OccursAt data (44 :: second) (offset + (tagPrefix ++ first).length) :=
        occurs.right
      refine ⟨bytes?_after_tag occurs.left, ?_⟩
      simpa [Nat.add_assoc, Int.add_assoc] using
        Span.bytes?_of_occursAt (comma.drop (Nat.le_add_left 1 _))
  | streamInf listed value => exact ⟨bytes?_after_tag occurs, bytes?_zero data⟩
  | uri notHash => exact ⟨Span.bytes?_of_occursAt occurs, bytes?_zero data⟩
  | unknown hash untagged => exact ⟨Span.bytes?_of_occursAt occurs, bytes?_zero data⟩

/-- The event `event` is the one the law gives for the line `entry` of `data`, a line's text
with its index from 0, and both of its spans lie inside `data` and address the texts the law
names there. -/
def FollowsLaw (data : Bytes) (entry : Bytes × Nat) (event : Event) : Prop :=
  ∃ first second, Law (entry.2 + 1) (Record.start data entry.2) entry.1 event first second ∧
    event.first.Inside data.length ∧ event.second.Inside data.length ∧
    event.first.bytes? data = some first ∧ event.second.bytes? data = some second

/-- The events of a manifest that opens with its header, line by line against the buffer: one
event for each non-empty line after the first, in order, and each the event the law gives for
that line, its spans inside the buffer and addressing the texts the law names. -/
theorem list_follows_record_law (data : Bytes) (nonempty : data ≠ [])
    (header : Record.header data = Directive.header) :
    ∃ events, list data = .ok events ∧
      List.Forall₂ (FollowsLaw data)
        (((Record.lines data).zipIdx.drop 1).filter fun entry => !entry.1.isEmpty) events := by
  refine ⟨_, list_of_opened (openingError?_eq_none nonempty header), ?_⟩
  rw [Record.body_eq_lines, List.map_map, List.forall₂_map_right_iff, List.forall₂_same]
  intro entry member
  -- the line's record is a record of the buffer, so it stands there at its offset
  have recorded : (⟨entry.2 + 1, Record.start data entry.2, entry.1⟩ : Record) ∈
      Record.split data := by
    rw [Record.split_eq_lines]
    exact List.mem_map_of_mem (List.mem_of_mem_drop (List.mem_filter.mp member).1)
  obtain ⟨first, second, law⟩ := law_ofRecord ⟨entry.2 + 1, Record.start data entry.2, entry.1⟩
  obtain ⟨firstAt, secondAt⟩ := law.addresses (Record.occursAt_of_mem_split recorded)
  exact ⟨first, second, law, Span.inside_of_bytes? firstAt, Span.inside_of_bytes? secondAt,
    firstAt, secondAt⟩

/-- A manifest with carriage returns, a blank line and an empty title opens, and its events follow
the law. -/
theorem list_follows_record_law_empty_title :
    (Bytes.ofString "#EXTM3U\r\n\n#EXTINF:2.5,\r\nseg.ts" ≠ [] ∧
      Record.header (Bytes.ofString "#EXTM3U\r\n\n#EXTINF:2.5,\r\nseg.ts") = Directive.header) ∧
    ∃ events, list (Bytes.ofString "#EXTM3U\r\n\n#EXTINF:2.5,\r\nseg.ts") = .ok events ∧
      List.Forall₂ (FollowsLaw (Bytes.ofString "#EXTM3U\r\n\n#EXTINF:2.5,\r\nseg.ts"))
        (((Record.lines (Bytes.ofString "#EXTM3U\r\n\n#EXTINF:2.5,\r\nseg.ts")).zipIdx.drop 1).filter
          fun entry => !entry.1.isEmpty) events :=
  ⟨⟨by decide +kernel, by decide +kernel⟩,
    list_follows_record_law _ (by decide +kernel) (by decide +kernel)⟩

-- an empty title is addressed at its real offset, right after the comma, with length zero
example : (list (Bytes.ofString "#EXTM3U\r\n#EXTINF:2.5,\r\n")).toOption.map
    (List.map fun event => (event.first, event.second)) = some [(⟨17, 3⟩, ⟨21, 0⟩)] := by
  decide +kernel

end Event

end HlsManifest
