import Coffer.Proofs.Json.Spelling
/-!
# Documents that are written can be read

Reading undoes writing for every document whose numbers are whole and whose strings are spelled so
that the grammar finds their end. The reader counts its fuel down at every value, item and member;
twice the length of what is written is always enough.
-/

namespace Coffer.Json

/-- A spelling whose end the grammar finds, whatever follows the closing quote. -/
def IsSpelling (spelling : Bytes) : Prop :=
  ∀ rest, readText (spelling ++ 0x22 :: rest) = some (spelling, rest)

theorem isSpelling_escape (text : String) : IsSpelling (escape text) := readText_escape text

theorem isSpelling_decimal (value : Nat) : IsSpelling (decimal value) :=
  readText_digits fun _ => isDigit_of_mem_decimal

/-- A document with whole numbers, and with strings whose end can be found. -/
inductive Legible : Json → Prop where
  | null : Legible .null
  | bool (value : Bool) : Legible (.bool value)
  | number (value : Nat) : Legible (ofNat value)
  | text {spelling : Bytes} (spelled : IsSpelling spelling) : Legible (.text spelling)
  | array {items : List Json} (each : ∀ item ∈ items, Legible item) : Legible (.array items)
  | object {members : List (Bytes × Json)} (keys : ∀ entry ∈ members, IsSpelling entry.1)
      (values : ∀ entry ∈ members, Legible entry.2) : Legible (.object members)

theorem legible_ofText (text : String) : Legible (ofText text) := .text (isSpelling_escape text)

theorem isSpace_of_isDigit {byte : UInt8} (digit : isDigit byte = true) :
    isSpace byte = false ∧ byte ≠ 0x5d := by
  simp only [isDigit, Bool.and_eq_true, decide_eq_true_eq] at digit
  constructor
  · simp only [isSpace, Bool.or_eq_false_iff, beq_eq_false_iff_ne]
    refine ⟨⟨⟨?_, ?_⟩, ?_⟩, ?_⟩ <;> (rintro rfl; exact absurd digit (by decide))
  · rintro rfl
    exact absurd digit (by decide)

theorem Legible.render_cons {json : Json} (legible : Legible json) :
    ∃ first later, json.render = first :: later ∧ isSpace first = false ∧ first ≠ 0x5d := by
  cases legible with
  | null => exact ⟨_, _, by rw [render], by decide, by decide⟩
  | bool value =>
    cases value with
    | false => exact ⟨_, _, by rw [render], by decide, by decide⟩
    | true => exact ⟨_, _, by rw [render], by decide, by decide⟩
  | number value =>
    obtain ⟨first, later, spelled, digit⟩ := decimal_cons value
    exact ⟨first, later, by rw [ofNat, render, spelled], isSpace_of_isDigit digit⟩
  | text spelled => exact ⟨_, _, by rw [render, quote, List.cons_append], by decide, by decide⟩
  | array each => exact ⟨_, _, by rw [render], by decide, by decide⟩
  | object keys values => exact ⟨_, _, by rw [render], by decide, by decide⟩

theorem skipSpace_cons {first : UInt8} (later : Bytes) (visible : isSpace first = false) :
    skipSpace (first :: later) = first :: later := by
  simp [skipSpace, visible]

theorem Legible.skipSpace_render {json : Json} (legible : Legible json) (rest : Bytes) :
    skipSpace (json.render ++ rest) = json.render ++ rest := by
  obtain ⟨first, later, written, visible, _⟩ := legible.render_cons
  rw [written, List.cons_append, skipSpace_cons _ visible]

theorem Legible.length_render {json : Json} (legible : Legible json) : 0 < json.render.length := by
  obtain ⟨first, later, written, _⟩ := legible.render_cons
  simp [written]

/-- With this fuel, every value of fitting length is read back. -/
def ReadsValues (fuel : Nat) : Prop :=
  ∀ (json : Json) (rest : Bytes), Legible json → 2 * json.render.length ≤ fuel →
    endsNumber rest = true → readValue fuel (json.render ++ rest) = some (json, rest)

/-- With this fuel, the items of every array of fitting length are read back. -/
def ReadsItems (fuel : Nat) : Prop :=
  ∀ (first : Json) (others : List Json) (rest : Bytes), (∀ item ∈ first :: others, Legible item) →
    2 * (renderItems (first :: others)).length ≤ fuel →
    readItems fuel (renderItems (first :: others) ++ rest) = some (first :: others, rest)

/-- With this fuel, the members of every object of fitting length are read back. -/
def ReadsMembers (fuel : Nat) : Prop :=
  ∀ (first : Bytes × Json) (others : List (Bytes × Json)) (rest : Bytes),
    (∀ entry ∈ first :: others, IsSpelling entry.1) → (∀ entry ∈ first :: others, Legible entry.2) →
    2 * (renderMembers (first :: others)).length ≤ fuel →
    readMembers fuel (renderMembers (first :: others) ++ rest) = some (first :: others, rest)

theorem readValue_digit (fuel : Nat) {first : UInt8} (later : Bytes)
    (digit : isDigit first = true) : readValue (fuel + 1) (first :: later) =
      (readNumber (first :: later)).map fun (spelling, rest) => (.number spelling, rest) := by
  rw [readValue.eq_def]
  simp only
  split
  all_goals first
    | rfl
    | (rename_i same; injection same with same; subst same; exact absurd digit (by decide))

theorem readValue_quote (fuel : Nat) (input : Bytes) :
    readValue (fuel + 1) (0x22 :: input) =
      (readText input).map fun (spelling, rest) => (.text spelling, rest) := rfl

theorem readValue_bracket (fuel : Nat) (input : Bytes) :
    readValue (fuel + 1) (0x5b :: input) =
      match skipSpace input with
      | 0x5d :: rest => some (.array [], rest)
      | rest => (readItems fuel rest).map fun (items, rest) => (.array items, rest) := rfl

theorem readValue_brace (fuel : Nat) (input : Bytes) :
    readValue (fuel + 1) (0x7b :: 0x22 :: input) =
      (readMembers fuel (0x22 :: input)).map fun (members, rest) => (.object members, rest) := rfl

theorem readValue_array (fuel : Nat) {first : UInt8} (later : Bytes)
    (visible : isSpace first = false) (notEnd : first ≠ 0x5d) :
    readValue (fuel + 1) (0x5b :: first :: later) =
      (readItems fuel (first :: later)).map fun (items, rest) => (.array items, rest) := by
  rw [readValue_bracket, skipSpace_cons later visible]
  split
  · rename_i same
    injection same with same
    exact absurd same notEnd
  · rfl

theorem readItems_step (fuel : Nat) (input : Bytes) :
    readItems (fuel + 1) input =
      match readValue fuel input with
      | none => none
      | some (item, rest) =>
        match skipSpace rest with
        | 0x5d :: rest => some ([item], rest)
        | 0x2c :: rest => (readItems fuel (skipSpace rest)).map fun (items, rest) =>
          (item :: items, rest)
        | _ => none := rfl

theorem readItems_last {fuel : Nat} {input rest : Bytes} {item : Json}
    (value : readValue fuel input = some (item, 0x5d :: rest)) :
    readItems (fuel + 1) input = some ([item], rest) := by
  rw [readItems_step, value]
  rfl

theorem readItems_more {fuel : Nat} {input rest : Bytes} {item : Json}
    (value : readValue fuel input = some (item, 0x2c :: rest)) :
    readItems (fuel + 1) input =
      (readItems fuel (skipSpace rest)).map fun (items, rest) => (item :: items, rest) := by
  rw [readItems_step, value]
  rfl

theorem readMembers_step (fuel : Nat) (input : Bytes) :
    readMembers (fuel + 1) (0x22 :: input) =
      match readText input with
      | none => none
      | some (key, rest) =>
        match skipSpace rest with
        | 0x3a :: rest =>
          match readValue fuel (skipSpace rest) with
          | none => none
          | some (value, rest) =>
            match skipSpace rest with
            | 0x7d :: rest => some ([(key, value)], rest)
            | 0x2c :: rest =>
              (readMembers fuel (skipSpace rest)).map fun (members, rest) =>
                ((key, value) :: members, rest)
            | _ => none
        | _ => none := rfl

theorem readMembers_last {fuel : Nat} {input key tail rest : Bytes} {value : Json}
    (spelled : readText input = some (key, 0x3a :: tail))
    (valued : readValue fuel (skipSpace tail) = some (value, 0x7d :: rest)) :
    readMembers (fuel + 1) (0x22 :: input) = some ([(key, value)], rest) := by
  rw [readMembers_step, spelled]
  simp only [skipSpace_cons _ (show isSpace 0x3a = false from rfl), valued]
  rfl

theorem readMembers_more {fuel : Nat} {input key tail rest : Bytes} {value : Json}
    (spelled : readText input = some (key, 0x3a :: tail))
    (valued : readValue fuel (skipSpace tail) = some (value, 0x2c :: rest)) :
    readMembers (fuel + 1) (0x22 :: input) =
      (readMembers fuel (skipSpace rest)).map fun (members, rest) =>
        ((key, value) :: members, rest) := by
  rw [readMembers_step, spelled]
  simp only [skipSpace_cons _ (show isSpace 0x3a = false from rfl), valued]
  rfl

/-- What is written after an item or a member: the closing bracket, or a comma and the others. -/
def following {α : Type} (closing : UInt8) (others : List α) (written : Bytes) : Bytes :=
  if others.isEmpty then [closing] else 0x2c :: written

theorem length_following {α : Type} (closing : UInt8) (others : List α) (written : Bytes) :
    0 < (following closing others written).length := by
  unfold following
  split <;> simp

theorem endsNumber_following {α : Type} {closing : UInt8} (others : List α) (written rest : Bytes)
    (ends : endsNumber [closing] = true) :
    endsNumber (following closing others written ++ rest) = true := by
  unfold following
  split
  · exact ends
  · rfl

theorem renderItems_cons (first : Json) (others : List Json) :
    renderItems (first :: others) = first.render ++ following 0x5d others (renderItems others) := by
  cases others with
  | nil => rw [renderItems]; rfl
  | cons next later => rw [renderItems]; rfl; simp

theorem renderMembers_cons (first : Bytes × Json) (others : List (Bytes × Json)) :
    renderMembers (first :: others) =
      0x22 :: (first.1 ++ 0x22 :: 0x3a ::
        (first.2.render ++ following 0x7d others (renderMembers others))) := by
  obtain ⟨key, value⟩ := first
  cases others with
  | nil => simp [renderMembers, quote, following]
  | cons next later => rw [renderMembers] <;> simp [quote, following]

theorem readValue_succ {fuel : Nat} (items : ReadsItems fuel) (members : ReadsMembers fuel) :
    ReadsValues (fuel + 1) := by
  intro json rest legible enough ends
  cases legible with
  | null => rfl
  | bool value => cases value <;> rfl
  | number value =>
    obtain ⟨first, later, spelled, digit⟩ := decimal_cons value
    have number := readNumber_decimal value ends
    rw [spelled, List.cons_append] at number
    rw [ofNat, render, spelled, List.cons_append, readValue_digit fuel _ digit, number]
    rfl
  | @text spelling spelled =>
    rw [render, quote, List.append_assoc, List.cons_append, List.cons_append, List.nil_append,
      readValue_quote, spelled rest]
    rfl
  | @array written each =>
    cases written with
    | nil => rfl
    | cons first others =>
      rw [render, List.length_cons] at enough
      have read := items first others rest each (by omega)
      obtain ⟨byte, later, firstWritten, visible, notEnd⟩ :=
        (each first List.mem_cons_self).render_cons
      rw [renderItems_cons, firstWritten, List.cons_append, List.cons_append] at read
      rw [render, renderItems_cons, firstWritten, List.cons_append, List.cons_append,
        List.cons_append, readValue_array fuel _ visible notEnd, read]
      rfl
  | @object written keys values =>
    cases written with
    | nil => rfl
    | cons first others =>
      rw [render, List.length_cons] at enough
      have read := members first others rest keys values (by omega)
      rw [renderMembers_cons, List.cons_append] at read
      rw [render, renderMembers_cons, List.cons_append, List.cons_append, readValue_brace, read]
      rfl

theorem readItems_succ {fuel : Nat} (values : ReadsValues fuel) (items : ReadsItems fuel) :
    ReadsItems (fuel + 1) := by
  intro first others rest each enough
  rw [renderItems_cons, List.length_append] at enough
  have more := length_following 0x5d others (renderItems others)
  have value := values first (following 0x5d others (renderItems others) ++ rest)
    (each first List.mem_cons_self) (by omega) (endsNumber_following others _ rest rfl)
  rw [renderItems_cons, List.append_assoc]
  cases others with
  | nil => exact readItems_last value
  | cons next later =>
    have legible : ∀ item ∈ next :: later, Legible item := fun item isIn =>
      each item (List.mem_cons_of_mem first isIn)
    have read := items next later rest legible (by simp [following] at enough; omega)
    have skipped : skipSpace (renderItems (next :: later) ++ rest) =
        renderItems (next :: later) ++ rest := by
      rw [renderItems_cons, List.append_assoc, (legible next List.mem_cons_self).skipSpace_render]
    rw [readItems_more value]
    change (readItems fuel (skipSpace (renderItems (next :: later) ++ rest))).map _ = _
    rw [skipped, read]
    rfl

theorem readMembers_succ {fuel : Nat} (values : ReadsValues fuel) (members : ReadsMembers fuel) :
    ReadsMembers (fuel + 1) := by
  intro first others rest keys legible enough
  rw [renderMembers_cons] at enough
  simp only [List.length_cons, List.length_append] at enough
  have value := values first.2 (following 0x7d others (renderMembers others) ++ rest)
    (legible first List.mem_cons_self) (by omega) (endsNumber_following others _ rest rfl)
  have key := keys first List.mem_cons_self
    (0x3a :: (first.2.render ++ (following 0x7d others (renderMembers others) ++ rest)))
  rw [renderMembers_cons, List.cons_append, List.append_assoc, List.cons_append, List.cons_append,
    List.append_assoc]
  rw [← (legible first List.mem_cons_self).skipSpace_render] at value
  cases others with
  | nil => exact readMembers_last key value
  | cons next later =>
    have read := members next later rest (fun entry isIn =>
      keys entry (List.mem_cons_of_mem first isIn))
      (fun entry isIn => legible entry (List.mem_cons_of_mem first isIn))
      (by simp [following] at enough; omega)
    have skipped : skipSpace (renderMembers (next :: later) ++ rest) =
        renderMembers (next :: later) ++ rest := by
      rw [renderMembers_cons, List.cons_append, skipSpace_cons _ rfl]
    rw [readMembers_more key value]
    change (readMembers fuel (skipSpace (renderMembers (next :: later) ++ rest))).map _ = _
    rw [skipped, read]
    rfl

theorem reads (fuel : Nat) : ReadsValues fuel ∧ ReadsItems fuel ∧ ReadsMembers fuel := by
  -- Each of the three calls the others with one less, so that they are proved together.
  induction fuel with
  | zero =>
    -- Whatever is written takes at least one byte, which is out of reach here.
    refine ⟨?_, ?_, ?_⟩
    · intro json rest legible enough
      have := legible.length_render
      omega
    · intro first others rest each enough
      have := (each first List.mem_cons_self).length_render
      rw [renderItems_cons, List.length_append] at enough
      omega
    · intro first others rest keys values enough
      rw [renderMembers_cons, List.length_cons] at enough
      omega
  | succ fuel ih =>
    obtain ⟨values, items, members⟩ := ih
    exact ⟨readValue_succ items members, readItems_succ values items,
      readMembers_succ values members⟩

theorem read?_render {json : Json} (legible : Legible json) : read? json.render = some json := by
  have skipped := legible.skipSpace_render []
  have value := (reads (2 * json.render.length + 1)).1 json [] legible (by omega) rfl
  rw [List.append_nil] at skipped value
  rw [read?, skipped, value]
  rfl

end Coffer.Json
