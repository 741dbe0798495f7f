import Coffer.Json.Record
import Coffer.Proofs.Json.Reading
/-!
# Records that are written can be read

A record is written from its fields in order, of which absent ones are left out. Whoever asks an
object that was written so for the same names gets every field back, present or absent, because the
names differ.
-/

namespace Coffer.Json

theorem mapM_eq_some {α β γ : Type} {write : α → β} {read : β → Option γ} {value : α → γ}
    {items : List α} (each : ∀ item ∈ items, read (write item) = some (value item)) :
    (items.map write).mapM read = some (items.map value) := by
  induction items with
  | nil => rfl
  | cons item others ih =>
    have later := ih fun other isIn => each other (List.mem_cons_of_mem item isIn)
    simp [List.mapM_cons, each item List.mem_cons_self, later]

theorem list?_map {α : Type} {write : α → Json} {read : Json → Option α} {items : List α}
    (each : ∀ item ∈ items, read (write item) = some item) :
    list? read (.array (items.map write)) = some items := by
  have found : (items.map write).mapM read = some (items.map id) := mapM_eq_some each
  rw [List.map_id] at found
  exact found

theorem legible_array_map {α : Type} {write : α → Json} (items : List α)
    (each : ∀ item, Legible (write item)) : Legible (.array (items.map write)) := by
  refine .array fun written isIn => ?_
  obtain ⟨item, _, rfl⟩ := List.mem_map.mp isIn
  exact each item

/-- The fields of a record that are present, with their names. -/
def present (fields : List (String × Option Json)) : List (String × Json) :=
  fields.filterMap fun field => field.2.map fun value => (field.1, value)

def written (fields : List (String × Option Json)) : List (Bytes × Json) :=
  (present fields).map fun field => member field.1 field.2

theorem keyed?_map_member (members : List (String × Json)) :
    keyed? (members.map fun field => member field.1 field.2) = some members := by
  induction members with
  | nil => rfl
  | cons field others ih =>
    have unfolded (later : List (Bytes × Json)) : keyed? (member field.1 field.2 :: later) =
        (spelledText? (escape field.1)).bind fun name =>
          (keyed? later).bind fun later => some ((name, field.2) :: later) := rfl
    rw [List.map_cons, unfolded, spelledText?_escape, Option.bind_some, ih]
    rfl

theorem filter_present_of_notMem {name : String} {fields : List (String × Option Json)}
    (absent : name ∉ fields.map Prod.fst) : (present fields).filter (·.1 == name) = [] := by
  rw [List.filter_eq_nil_iff]
  intro entry isIn same
  obtain ⟨field, inFields, found⟩ := List.mem_filterMap.mp isIn
  obtain ⟨value, _, rfl⟩ := Option.map_eq_some_iff.mp found
  exact absent (List.mem_map.mpr ⟨field, inFields, by simpa using same⟩)

theorem field?_present {fields : List (String × Option Json)}
    (distinct : (fields.map Prod.fst).Nodup) {field : String × Option Json}
    (isIn : field ∈ fields) : field? field.1 (present fields) = some field.2 := by
  have found : (present fields).filter (·.1 == field.1) =
      (field.2.map fun value => (field.1, value)).toList := by
    induction fields with
    | nil => cases isIn
    | cons first others ih =>
      have ⟨different, othersDistinct⟩ := List.nodup_cons.mp distinct
      rcases List.mem_cons.mp isIn with rfl | later
      · have none_later := filter_present_of_notMem different
        cases value : field.2 with
        | none => simpa [present, value] using none_later
        | some value' => simpa [present, value] using none_later
      · have notFirst : first.1 ≠ field.1 := fun same =>
          different (List.mem_map.mpr ⟨field, later, same.symm⟩)
        rw [← ih othersDistinct later]
        cases value : first.2 with
        | none => simp [present, value]
        | some value' => simp [present, value, notFirst]
  rw [field?, found]
  cases field.2 <;> rfl

theorem fields?_written (fields : List (String × Option Json))
    (distinct : (fields.map Prod.fst).Nodup) :
    fields? (fields.map Prod.fst) (.object (written fields)) = some (fields.map Prod.snd) := by
  rw [fields?, written, keyed?_map_member]
  exact mapM_eq_some fun field isIn => field?_present distinct isIn

theorem mem_written {fields : List (String × Option Json)} {entry : Bytes × Json}
    (isIn : entry ∈ written fields) :
    ∃ name value, (name, some value) ∈ fields ∧ entry = member name value := by
  obtain ⟨field, isPresent, rfl⟩ := List.mem_map.mp isIn
  obtain ⟨⟨name, content⟩, inFields, found⟩ := List.mem_filterMap.mp isPresent
  obtain ⟨value, rfl, rfl⟩ := Option.map_eq_some_iff.mp found
  exact ⟨name, value, inFields, rfl⟩

theorem legible_written (fields : List (String × Option Json))
    (values : ∀ field ∈ fields, ∀ value, field.2 = some value → Legible value) :
    Legible (.object (written fields)) := by
  refine .object ?_ ?_
  · intro entry isIn
    obtain ⟨name, value, _, rfl⟩ := mem_written isIn
    exact isSpelling_escape name
  · intro entry isIn
    obtain ⟨name, value, inFields, rfl⟩ := mem_written isIn
    exact values (name, some value) inFields value rfl

theorem optional_map {α : Type} {write : α → Json} {read : Json → Option α} (value : Option α)
    (notNull : ∀ value, write value ≠ .null) (readBack : ∀ value, read (write value) = some value) :
    optional read (value.map write) = some value := by
  cases value with
  | none => rfl
  | some value =>
    rw [Option.map_some, optional]
    · rw [readBack, Option.map_some]
    · exact notNull value

end Coffer.Json
