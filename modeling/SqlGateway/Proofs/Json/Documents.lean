import SqlGateway.Proofs.Json.NumberNames
import SqlGateway.Proofs.Json.Numbers
import SqlGateway.Proofs.Json.Strings
import SqlGateway.Proofs.Value.Leaves

/-
  This file shows which written values are JSON documents:
  those without a number that is not finite.  Such a
  document stands for the value as JSON can carry it.

  Key definitions include:
    * `Value.isFinite`
    * `Value.isSound`
    * `Value.carried`

  Main declarations:
    * `Json.block_form`
    * `Json.reads_write`
    * `Json.tells_write`
    * `Json.decodes_document_iff`
-/

namespace SqlGateway

open Text

namespace Value

------------------------------------------------------------
-- Carried Values
------------------------------------------------------------

/- A value is no number, or one that is finite. -/
def isFiniteLeaf : Value → Bool
  | float x => !x.isSpecial
  | _ => true

/- All numbers inside a value are finite. -/
def isFinite (v : Value) : Bool :=
  v.everyLeaf isFiniteLeaf

/- A value is no text by codes, or one that a text may
   have. -/
def isSoundLeaf : Value → Bool
  | raw codes => codes.all Code.isSound
  | _ => true

/- All texts inside a value are made of characters and halves
   of pairs. -/
def isSound (v : Value) : Bool :=
  v.everyLeaf isSoundLeaf

mutual

/-
  A value as JSON carries it: tuples are lists, and what
  JSON has no form for is the text that a table cell shows.
-/
def carried : Value → Value
  | null => null
  | bool b => bool b
  | int i => int i
  | float x => float x
  | text s => text s
  | raw codes => ofCodes (Json.joined codes)
  | list vs => list (carriedItems vs)
  | tuple vs => list (carriedItems vs)
  | object fields => object (carriedFields fields)
  | v => text v.displayText

/- Several values as JSON carries them. -/
def carriedItems : List Value → List Value
  | [] => []
  | v :: vs => carried v :: carriedItems vs

/- Several named values as JSON carries them. -/
def carriedFields :
    List (String × Value) → List (String × Value)
  | [] => []
  | (name, v) :: rest =>
      (name, carried v) :: carriedFields rest

end

/- Each item is carried by itself. -/
theorem carriedItems_eq_map (vs : List Value) :
    carriedItems vs = vs.map carried := by
  induction vs with
  | nil => rfl
  | cons v vs ih => rw [carriedItems, ih, List.map_cons]

theorem carriedFields_eq_map (fields : Fields) :
    carriedFields fields =
      fields.map fun f => (f.1, carried f.2) := by
  induction fields with
  | nil => rfl
  | cons f fields ih =>
      rw [carriedFields, ih, List.map_cons]

end Value

namespace Json

------------------------------------------------------------
-- Blocks
------------------------------------------------------------

/- Each item is written by itself. -/
theorem writeItems_eq_map
    (depth : Nat)
    (vs : List Value) :
    writeItems depth vs = vs.map (write depth) := by
  induction vs with
  | nil => rfl
  | cons v vs ih => rw [writeItems, ih, List.map_cons]

/- The text of a named value. -/
def writeField
    (depth : Nat)
    (f : String × Value) : List Char :=
  string f.1.toList ++ ':' :: ' ' :: write depth f.2

theorem writeFields_eq_map
    (depth : Nat)
    (fields : Fields) :
    writeFields depth fields =
      fields.map (writeField depth) := by
  induction fields with
  | nil => rfl
  | cons f fields ih =>
      rw [writeFields, ih, List.map_cons]
      rfl

theorem isGap_newLine (depth : Nat) :
    IsGap (newLine depth) := by
  intro c hMem
  rcases List.mem_cons.mp hMem with hLine | hSpace
  · rw [hLine]
    rfl
  · rw [(List.mem_replicate.mp hSpace).2]
    rfl

/- Joined items may follow a comma. -/
theorem Joined.more
    {item cs : List Char}
    {items : List (List Char)}
    (hJoined : Joined (item :: items) cs) :
    More (item :: items) (',' :: cs) := by
  cases hJoined with
  | cons hItem hRest => exact More.cons hItem hRest

/- Items that commas and white space stand between are
   joined. -/
theorem joined_intercalate
    {before after : List Char}
    (hBefore : IsGap before)
    (hAfter : IsGap after)
    (item : List Char)
    (items : List (List Char)) :
    Joined (item :: items)
      (before ++
        (List.intercalate (',' :: before) (item :: items) ++
          after)) := by
  induction items generalizing item with
  | nil =>
      have hItem :
          Padded item (before ++ (item ++ after)) :=
        ⟨before, after, hBefore, hAfter, rfl⟩
      have hOnly := Joined.cons hItem More.nil
      rw [List.append_nil] at hOnly
      rw [List.intercalate_singleton]
      exact hOnly
  | cons next items ih =>
      have hItem : Padded item (before ++ (item ++ [])) :=
        ⟨before, [], hBefore, nofun, rfl⟩
      have hAll := Joined.cons hItem (ih next).more
      rw [List.intercalate_cons_cons]
      simp only [List.append_nil, List.append_assoc,
        List.cons_append] at hAll ⊢
      exact hAll

/- A block is made of brackets around joined items. -/
theorem block_form
    (opening closing : Char)
    (depth : Nat)
    (items : List (List Char)) :
    ∃ inner,
      block opening closing depth items =
          opening :: (inner ++ [closing]) ∧
        Joined items inner := by
  cases items with
  | nil => exact ⟨[], rfl, Joined.nil nofun⟩
  | cons item items =>
      refine
        ⟨newLine (depth + 1) ++
          (List.intercalate (',' :: newLine (depth + 1))
              (item :: items) ++
            newLine depth), ?_,
          joined_intercalate (isGap_newLine _)
            (isGap_newLine _) item items⟩
      simp [block]

------------------------------------------------------------
-- Written Values
------------------------------------------------------------

variable {depth : Nat}

theorem reads_text (cs : List Char) :
    Reads (string cs) (.text (String.ofList cs)) := by
  have hReads := Reads.string (string_form cs)
  rwa [ofCodes_ofChars] at hReads

/- A leaf stands for itself as JSON carries it. -/
theorem reads_leaf
    {v : Value}
    (hLeaf : v.isLeaf = true)
    (hSound : v.isSound = true)
    (hFinite : v.isFinite = true) :
    Reads (write depth v) v.carried := by
  unfold Value.isSound at hSound
  unfold Value.isFinite at hFinite
  rw [Value.everyLeaf_of_isLeaf hLeaf] at hSound hFinite
  cases v with
  | null => exact Reads.nullWord
  | bool b =>
      cases b with
      | false => exact Reads.falseWord
      | true => exact Reads.trueWord
  | int i => exact reads_signed i
  | float x =>
      have hNumber : x.isSpecial = false := by
        simpa [Value.isFiniteLeaf] using hFinite
      have hWrite : x.write numberNames = x.writeFinite := by
        simp [Double.write, Double.isNaN, Double.isInfinite,
          hNumber]
      have hReads := reads_finite hNumber
      rw [← hWrite] at hReads
      exact hReads
  | text s =>
      have hReads := reads_text s.toList
      rw [String.ofList_toList] at hReads
      exact hReads
  | raw codes => exact Reads.string (codeString_form hSound)
  | list vs => cases hLeaf
  | tuple vs => cases hLeaf
  | object fields => cases hLeaf
  | _ => exact reads_text _

/- Written items stand for the items, as a list. -/
theorem reads_items
    {vs : List Value}
    (hItems :
      ∀ v ∈ vs, Reads (write (depth + 1) v) v.carried) :
    Reads
      (block '[' ']' depth (writeItems (depth + 1) vs))
      (.list (Value.carriedItems vs)) := by
  rcases block_form '[' ']' depth
      (writeItems (depth + 1) vs) with
    ⟨inner, hBlock, hJoined⟩
  rw [hBlock, Value.carriedItems_eq_map]
  rw [writeItems_eq_map] at hJoined
  have hTexts :
      ∀ item ∈ vs.map
          (fun v => (write (depth + 1) v, v.carried)),
        Reads item.1 item.2 := by
    intro item hMem
    rcases List.mem_map.mp hMem with ⟨v, hV, rfl⟩
    exact hItems v hV
  have hReads :=
    Reads.list hTexts (by rw [List.map_map]; exact hJoined)
  rw [List.map_map] at hReads
  exact hReads

/- A named value as a member of an object. -/
def fieldMember
    (depth : Nat)
    (f : String × Value) : Member where
  key := string f.1.toList
  before := []
  after := [' ']
  text := write depth f.2
  codes := Code.ofChars f.1.toList
  value := f.2.carried

theorem wellFormed_fieldMember (f : String × Value) :
    (fieldMember depth f).WellFormed :=
  ⟨string_form _, nofun, by
    intro c hMem
    rw [List.mem_singleton.mp hMem]
    rfl⟩

theorem written_fieldMember (f : String × Value) :
    (fieldMember depth f).written = writeField depth f :=
  rfl

theorem field_fieldMember (f : String × Value) :
    (fieldMember depth f).field = (f.1, f.2.carried) := by
  unfold Member.field fieldMember
  simp only [nameOfCodes_ofChars, String.ofList_toList]

/- Written fields stand for the fields, as an object. -/
theorem reads_fields
    {fields : Fields}
    (hFields :
      ∀ f ∈ fields,
        Reads (write (depth + 1) f.2) f.2.carried) :
    Reads
      (block '\x7b' '\x7d' depth
        (writeFields (depth + 1) fields))
      (.object (Value.carriedFields fields)) := by
  rcases block_form '\x7b' '\x7d' depth
      (writeFields (depth + 1) fields) with
    ⟨inner, hBlock, hJoined⟩
  rw [hBlock, Value.carriedFields_eq_map]
  rw [writeFields_eq_map] at hJoined
  have hMembers :
      ∀ m ∈ fields.map (fieldMember (depth + 1)),
        m.WellFormed := by
    intro m hMem
    rcases List.mem_map.mp hMem with ⟨f, hF, rfl⟩
    exact wellFormed_fieldMember f
  have hTexts :
      ∀ m ∈ fields.map (fieldMember (depth + 1)),
        Reads m.text m.value := by
    intro m hMem
    rcases List.mem_map.mp hMem with ⟨f, hF, rfl⟩
    exact hFields f hF
  have hReads :=
    Reads.object hMembers hTexts
      (by rw [List.map_map]; exact hJoined)
  rw [List.map_map] at hReads
  have hSame :
      Member.field ∘ fieldMember (depth + 1) =
        fun f => (f.1, f.2.carried) :=
    funext field_fieldMember
  rw [hSame] at hReads
  exact hReads

/- A written value without numbers that are not finite stands
   for the value as JSON carries it. -/
theorem reads_write
    (v : Value)
    (depth : Nat)
    (hSound : v.isSound = true)
    (hFinite : v.isFinite = true) :
    Reads (write depth v) v.carried := by
  induction v using Value.inductionOn generalizing depth with
  | leaf v hLeaf => exact reads_leaf hLeaf hSound hFinite
  | list vs ih =>
      simp only [Value.isSound, Value.isFinite,
        Value.everyLeaf_list, List.all_eq_true]
        at hSound hFinite
      exact
        reads_items fun v hMem =>
          ih v hMem _ (hSound v hMem) (hFinite v hMem)
  | tuple vs ih =>
      simp only [Value.isSound, Value.isFinite,
        Value.everyLeaf_tuple, List.all_eq_true]
        at hSound hFinite
      exact
        reads_items fun v hMem =>
          ih v hMem _ (hSound v hMem) (hFinite v hMem)
  | object fields ih =>
      simp only [Value.isSound, Value.isFinite,
        Value.everyLeaf_object, List.all_eq_true]
        at hSound hFinite
      exact
        reads_fields fun f hMem =>
          ih f hMem _ (hSound f hMem) (hFinite f hMem)

------------------------------------------------------------
-- Numbers That Are Not Finite
------------------------------------------------------------

/- A written double is told to be none that is finite by the
   capital of its name. -/
theorem tells_special
    {x : Double}
    (hSpecial : x.isSpecial = true) :
    Tells (x.write numberNames) true := by
  unfold Double.write
  split
  · exact Tells.ofNoQuote (by decide)
  · rename_i hNumber
    have hInfinite : x.isInfinite = true := by
      simp only [Double.isNaN, hSpecial, Bool.true_and,
        bne_iff_ne, not_not] at hNumber
      simp [Double.isInfinite, hSpecial, hNumber]
    rw [if_pos hInfinite]
    split
    · exact Tells.ofNoQuote (by decide)
    · exact Tells.ofNoQuote (by decide)

/- Written items tell what any of them tells. -/
theorem tells_items
    (named : Value → Bool)
    {vs : List Value}
    (hItems :
      ∀ v ∈ vs, Tells (write (depth + 1) v) (named v)) :
    Tells
      (block '[' ']' depth (writeItems (depth + 1) vs))
      (vs.any named) := by
  rcases block_form '[' ']' depth
      (writeItems (depth + 1) vs) with
    ⟨inner, hBlock, hJoined⟩
  rw [hBlock]
  rw [writeItems_eq_map] at hJoined
  exact hJoined.tells_list hItems

theorem tells_fields
    (named : Value → Bool)
    {fields : Fields}
    (hFields :
      ∀ f ∈ fields,
        Tells (write (depth + 1) f.2) (named f.2)) :
    Tells
      (block '\x7b' '\x7d' depth
        (writeFields (depth + 1) fields))
      (fields.any fun f => named f.2) := by
  rcases block_form '\x7b' '\x7d' depth
      (writeFields (depth + 1) fields) with
    ⟨inner, hBlock, hJoined⟩
  rw [hBlock]
  rw [writeFields_eq_map] at hJoined
  have hWritten :
      ∀ f ∈ fields,
        Tells (writeField (depth + 1) f) (named f.2) := by
    intro f hMem
    rw [← written_fieldMember]
    exact (wellFormed_fieldMember f).tells (hFields f hMem)
  exact hJoined.tells_object hWritten

/- A written value tells whether a number inside it is not
   finite. -/
theorem tells_write
    (v : Value)
    (depth : Nat)
    (hSound : v.isSound = true) :
    Tells (write depth v) (!v.isFinite) := by
  induction v using Value.inductionOn generalizing depth with
  | leaf v hLeaf =>
      cases hFinite : v.isFinite with
      | true => exact (reads_leaf hLeaf hSound hFinite).tells
      | false =>
          unfold Value.isFinite at hFinite
          rw [Value.everyLeaf_of_isLeaf hLeaf] at hFinite
          cases v with
          | float x =>
              apply tells_special
              simpa [Value.isFiniteLeaf] using hFinite
          | _ => cases hFinite
  | list vs ih =>
      simp only [Value.isSound, Value.isFinite,
        Value.everyLeaf_list, List.all_eq_true,
        List.not_all_eq_any_not] at hSound ⊢
      exact
        tells_items (fun v => !v.isFinite) fun v hMem =>
          ih v hMem _ (hSound v hMem)
  | tuple vs ih =>
      simp only [Value.isSound, Value.isFinite,
        Value.everyLeaf_tuple, List.all_eq_true,
        List.not_all_eq_any_not] at hSound ⊢
      exact
        tells_items (fun v => !v.isFinite) fun v hMem =>
          ih v hMem _ (hSound v hMem)
  | object fields ih =>
      simp only [Value.isSound, Value.isFinite,
        Value.everyLeaf_object, List.all_eq_true,
        List.not_all_eq_any_not] at hSound ⊢
      exact
        tells_fields (fun v => !v.isFinite) fun f hMem =>
          ih f hMem _ (hSound f hMem)

------------------------------------------------------------
-- Documents
------------------------------------------------------------

theorem toList_document (v : Value) :
    (document v).toList = write 0 v :=
  String.toList_ofList

/- A value that has only finite numbers is written as a
   document. -/
theorem decodes_document
    {v : Value}
    (hSound : v.isSound = true)
    (hFinite : v.isFinite = true) :
    Decodes (document v).toList v.carried := by
  refine
    ⟨write 0 v, reads_write v 0 hSound hFinite, [], [],
      nofun, nofun, ?_⟩
  rw [toList_document, List.append_nil, List.nil_append]

/- What is written is a document only then. -/
theorem isFinite_of_decodes_document
    {v w : Value}
    (hSound : v.isSound = true)
    (hDecodes : Decodes (document v).toList w) :
    v.isFinite = true := by
  have hNone := hDecodes.namesNumber_eq_false
  rw [toList_document,
    (tells_write v 0 hSound).namesNumber_eq] at hNone
  simpa using hNone

/- What is written for a value with sound texts is a
   document exactly if its numbers are finite, and stands
   for the value as JSON carries it and for no other. -/
theorem decodes_document_iff
    {v w : Value}
    (hSound : v.isSound = true) :
    Decodes (document v).toList w ↔
      v.isFinite = true ∧ w = v.carried := by
  constructor
  · intro hDecodes
    have hFinite :=
      isFinite_of_decodes_document hSound hDecodes
    exact
      ⟨hFinite,
        hDecodes.unique (decodes_document hSound hFinite)⟩
  · rintro ⟨hFinite, rfl⟩
    exact decodes_document hSound hFinite

end Json

end SqlGateway
