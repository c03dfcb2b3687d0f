import Accounts.Json.Decode
import Accounts.Proofs.Except
import Mathlib.Data.List.Induction
import Mathlib.Data.List.Nodup
/-!
# Fields of objects

An object keeps its fields in the order of their names.  So fields that are in that order are
not moved, and of fields with different names each one is found in the object that is made of
them, with the value that it was given.

What is read from a value tells the value, and a record is read from fields if each of its fields
is there and is read.
-/

namespace Accounts.Json

/-! ## Order -/

section Order

variable {α : Type} {name : String} {value : α} {fields : List (String × α)}

/-- The fields are in the order of their names. -/
def Ordered (fields : List (String × α)) : Prop := fields.Pairwise fun f g => f.1 < g.1

theorem insertField_of_lt (h : ∀ f ∈ fields, f.1 < name) :
    insertField name value fields = fields ++ [(name, value)] := by
  induction fields with
  | nil => rfl
  | cons f fs ih =>
      obtain ⟨hf, hfs⟩ := List.forall_mem_cons.1 h
      have hne : name ≠ f.1 := fun heq => String.lt_irrefl _ (heq ▸ hf)
      rw [insertField, if_neg hne, if_neg (String.lt_asymm hf), ih hfs]
      rfl

theorem mem_insertField {f : String × α} (h : f ∈ insertField name value fields) :
    f = (name, value) ∨ f ∈ fields := by
  induction fields with
  | nil => simpa [insertField] using h
  | cons g gs ih =>
      rw [insertField] at h
      split at h
      · exact (List.mem_cons.1 h).imp_right (List.mem_cons_of_mem g)
      split at h
      · exact List.mem_cons.1 h
      · rcases List.mem_cons.1 h with rfl | h
        · exact .inr List.mem_cons_self
        · exact (ih h).imp_right (List.mem_cons_of_mem g)

theorem ordered_insertField (h : Ordered fields) : Ordered (insertField name value fields) := by
  induction fields with
  | nil => exact List.pairwise_singleton ..
  | cons f fs ih =>
      obtain ⟨hf, hfs⟩ := List.pairwise_cons.1 h
      rw [insertField]
      split
      · next heq => exact List.pairwise_cons.2 ⟨fun g hg => heq ▸ hf g hg, hfs⟩
      split
      · next hlt =>
          refine List.pairwise_cons.2 ⟨fun g hg => ?_, h⟩
          rcases List.mem_cons.1 hg with rfl | hg
          · exact hlt
          · exact String.lt_trans hlt (hf g hg)
      · next hne hnlt =>
          have hgt : f.1 < name := String.not_le.1 fun hle =>
            hne (String.le_antisymm hle (String.not_lt.1 hnlt))
          refine List.pairwise_cons.2 ⟨fun g hg => ?_, ih hfs⟩
          rcases mem_insertField hg with rfl | hg
          · exact hgt
          · exact hf g hg

theorem sortFields_append_singleton (fields : List (String × α)) (f : String × α) :
    sortFields (fields ++ [f]) = insertField f.1 f.2 (sortFields fields) := by
  rw [sortFields, sortFields, List.foldl_append]
  rfl

theorem ordered_sortFields (fields : List (String × α)) : Ordered (sortFields fields) := by
  induction fields using List.reverseRecOn with
  | nil => exact List.Pairwise.nil
  | append_singleton fs f ih =>
      rw [sortFields_append_singleton]
      exact ordered_insertField ih

theorem mem_of_mem_sortFields {f : String × α} (h : f ∈ sortFields fields) : f ∈ fields := by
  induction fields using List.reverseRecOn with
  | nil => cases h
  | append_singleton fs g ih =>
      rw [sortFields_append_singleton] at h
      rcases mem_insertField h with rfl | h
      · exact List.mem_append_right _ (List.mem_singleton_self g)
      · exact List.mem_append_left _ (ih h)

/-- Fields that are in order are not moved. -/
theorem sortFields_of_ordered (h : Ordered fields) : sortFields fields = fields := by
  induction fields using List.reverseRecOn with
  | nil => rfl
  | append_singleton fs f ih =>
      obtain ⟨hfs, -, hlt⟩ := List.pairwise_append.1 h
      rw [sortFields_append_singleton, ih hfs,
        insertField_of_lt fun g hg => hlt g hg f (List.mem_singleton_self f)]

end Order

/-! ## Values of one type -/

namespace Decoder

variable {α : Type} {v : Json} {d : Decoder α} {a : α}

theorem read_text_iff {s : String} : text.read v = .ok s ↔ v = .string s := by
  cases v <;> simp [text]

theorem read_int64_iff {i : Int} : int64.read v = .ok i ↔ v = .ofInt i ∧ i < Int.pow 2 63 := by
  cases v with
  | number n =>
      cases n with
      | float x => simp [int64, ofInt]
      | integer j =>
          simp only [int64, ofInt, Json.number.injEq, Number.integer.injEq]
          split
          · next hlt =>
              constructor
              · intro h
                cases h
                exact ⟨rfl, hlt⟩
              · rintro ⟨rfl, -⟩
                rfl
          · next hge =>
              constructor
              · intro h
                cases h
              · rintro ⟨rfl, hlt⟩
                exact (hge hlt).elim
  | null | bool b | string s | array items | object fields => simp [int64, ofInt]

theorem read_list_iff {as : List α} : (list d).read v = .ok as ↔
    ∃ items, v = .array items ∧ List.Forall₂ (fun item a => d.read item = .ok a) items as := by
  cases v with
  | array items => simp [list, Except.mapM_eq_ok_iff]
  | null | bool b | number n | string s | object fields => simp [list]

/-- A value of an enumeration is read by its name, alone or as the one field of an object. -/
theorem read_oneOf_iff {all : List α} {name : α → String} : (oneOf all name).read v = .ok a ↔
    ∃ s, (v = .string s ∨ v = .object [(s, .null)]) ∧
      all.find? (fun b => name b == s) = some a := by
  have hpick : ∀ s, oneOf.pick all name s = .ok a ↔
      all.find? (fun b => name b == s) = some a := by
    intro s
    rw [oneOf.pick]
    split
    · next b hb => simp [hb]
    · next hb => simp [hb]
  cases v with
  | string s => simp [oneOf, hpick]
  | object fields =>
      rcases fields with - | ⟨⟨s, w⟩, - | ⟨g, gs⟩⟩
      · simp [oneOf]
      · cases w with
        | null =>
            have hread : (oneOf all name).read (.object [(s, .null)]) = oneOf.pick all name s := by
              cases hp : oneOf.pick all name s with
              | error e => simp [oneOf, hp, bind, Except.bind]
              | ok b => simp [oneOf, hp, bind, Except.bind]
            rw [hread, hpick]
            simp
        | bool b | number n | string s' | array items | object fs =>
            cases hp : oneOf.pick all name s with
            | error e => simp [oneOf, hp, bind, Except.bind]
            | ok b => simp [oneOf, hp, bind, Except.bind]
      · simp [oneOf]
  | null | bool b | number n | array items => simp [oneOf]

end Decoder

/-! ## Records -/

namespace Record

variable {α β : Type} {fields : List (String × Json)} {d : Decoder α} {a : α}

/-- A field that may not be missing is read if it is there and its value is read. -/
theorem ofFields_field_iff {name : String} (h : d.absent = none) :
    (field name d).ofFields fields = .ok a ↔
      ∃ v, fields.lookup name = some v ∧ d.read v = .ok a := by
  cases hv : fields.lookup name with
  | none => simp [field, hv, h]
  | some v =>
      cases ha : d.read v with
      | error e => simp [field, hv, ha, Except.mapError]
      | ok b => simp [field, hv, ha, Except.mapError]

theorem ofFields_text_iff {name s : String} :
    (field name .text).ofFields fields = .ok s ↔ fields.lookup name = some (.string s) := by
  refine (ofFields_field_iff rfl).trans ?_
  simp [Decoder.read_text_iff]

theorem ofFields_int64_iff {name : String} {i : Int} :
    (field name .int64).ofFields fields = .ok i ↔
      fields.lookup name = some (.ofInt i) ∧ i < Int.pow 2 63 := by
  refine (ofFields_field_iff rfl).trans ?_
  simp only [Decoder.read_int64_iff]
  exact ⟨fun ⟨_, hv, heq, hlt⟩ => ⟨heq ▸ hv, hlt⟩, fun ⟨hv, hlt⟩ => ⟨_, hv, rfl, hlt⟩⟩

/-- A record of several fields is read if each of them is. -/
theorem ofFields_andThen_iff {f : Record (α → β)} {r : Record α} {b : β} :
    (f.andThen r).ofFields fields = .ok b ↔
      ∃ g a, f.ofFields fields = .ok g ∧ r.ofFields fields = .ok a ∧ g a = b := by
  cases hf : f.ofFields fields with
  | error e =>
      cases hr : r.ofFields fields with
      | error e' => simp [andThen, hf, hr]
      | ok a => simp [andThen, hf, hr]
  | ok g =>
      cases hr : r.ofFields fields with
      | error e => simp [andThen, hf, hr]
      | ok a => simp [andThen, hf, hr]

end Record

end Accounts.Json
