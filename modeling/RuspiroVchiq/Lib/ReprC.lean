import RuspiroVchiq.Lib.ByteMemory
import RuspiroVchiq.Lib.Regions
import RuspiroVchiq.Lib.RoundUp

/-!
# Records with a C layout

The layout `#[repr(C)]` prescribes: the fields in the order of their declaration, each at
the next address its alignment allows. A record type is described by its shape, a field of
it, however deep, by a path of indices. Fields with different paths do not overlap, so
reading and writing fields obey the laws of a record.
-/

namespace RuspiroVchiq.Lib.ReprC

open RuspiroVchiq.Lib.ByteMemory
open RuspiroVchiq.Lib.Regions
open RuspiroVchiq.Lib.RoundUp

set_option autoImplicit false

/-- An integer of `2 ^ power` bytes, an array or a record. -/
inductive Shape where
  | word (power : Nat)
  | array (element : Shape) (count : Nat)
  | record (fields : List Shape)

abbrev Path := List Nat

mutual

def Shape.align : Shape → Nat
  | .word power => 2 ^ power
  | .array element _ => element.align
  | .record fields => alignAll fields

def alignAll : List Shape → Nat
  | [] => 1
  | field :: fields => max field.align (alignAll fields)

end

mutual

def Shape.size : Shape → Nat
  | .word power => 2 ^ power
  | .array element count => count * element.size
  | .record fields => roundUp (alignAll fields) (fieldsEnd fields 0)

/-- Where the fields end that are placed from `cursor` on. -/
def fieldsEnd : List Shape → Nat → Nat
  | [], cursor => cursor
  | field :: fields, cursor => fieldsEnd fields (roundUp field.align cursor + field.size)

end

mutual

/-- The integer a path leads to, for a value at the given address. -/
def Shape.locate : Shape → Path → Nat → Option Region
  | .word power, [], base => some ⟨base, 2 ^ power⟩
  | .array element count, index :: path, base =>
      if index < count then element.locate path (base + index * element.size) else none
  | .record fields, index :: path, base => locateField fields index path base 0
  | .word _, _ :: _, _ => none
  | .array _ _, [], _ => none
  | .record _, [], _ => none

def locateField : List Shape → Nat → Path → Nat → Nat → Option Region
  | [], _, _, _, _ => none
  | field :: _, 0, path, base, cursor => field.locate path (base + roundUp field.align cursor)
  | field :: fields, index + 1, path, base, cursor =>
      locateField fields index path base (roundUp field.align cursor + field.size)

end

mutual

/-- The bytes of all integers, without the padding between them. -/
def Shape.content : Shape → Nat
  | .word power => 2 ^ power
  | .array element count => count * element.content
  | .record fields => contentAll fields

def contentAll : List Shape → Nat
  | [] => 0
  | field :: fields => field.content + contentAll fields

end

mutual

theorem align_positive : (shape : Shape) → 0 < shape.align
  | .word power => Nat.two_pow_pos power
  | .array element _ => align_positive element
  | .record fields => align_all_positive fields

theorem align_all_positive : (fields : List Shape) → 0 < alignAll fields
  | [] => Nat.one_pos
  | field :: _ => Nat.lt_of_lt_of_le (align_positive field) (Nat.le_max_left _ _)

end

theorem cursor_le_end (fields : List Shape) (cursor : Nat) : cursor ≤ fieldsEnd fields cursor := by
  induction fields generalizing cursor with
  | nil => exact Nat.le_refl cursor
  | cons field fields ih =>
      have placed : cursor ≤ roundUp field.align cursor := le_round_up (align_positive field)
      have rest := ih (roundUp field.align cursor + field.size)
      rw [fieldsEnd]
      omega

mutual

/-- A field is inside of its record. -/
theorem locate_within : (shape : Shape) → {path : Path} → {base : Nat} → {region : Region} →
    shape.locate path base = some region → region.Within ⟨base, shape.size⟩
  | .word power, [], base, region, found => by
      rw [Shape.locate, Option.some.injEq] at found
      rw [← found]
      exact Region.within_refl _
  | .array element count, index :: path, base, region, found => by
      rw [Shape.locate, Option.ite_none_right_eq_some] at found
      have inside := locate_within element found.2
      have bound : (index + 1) * element.size ≤ count * element.size :=
        Nat.mul_le_mul_right element.size found.1
      rw [Nat.succ_mul] at bound
      unfold Region.Within Region.stop at inside ⊢
      rw [Shape.size]
      simp only at inside ⊢
      omega
  | .record fields, index :: path, base, region, found => by
      rw [Shape.locate] at found
      have inside := locate_field_within fields found
      have rounded : fieldsEnd fields 0 ≤ roundUp (alignAll fields) (fieldsEnd fields 0) :=
        le_round_up (align_all_positive fields)
      unfold Region.Within Region.stop at *
      rw [Shape.size]
      simp only at *
      omega
  | .word _, _ :: _, _, _, found => by simp [Shape.locate] at found
  | .array _ _, [], _, _, found => by simp [Shape.locate] at found
  | .record _, [], _, _, found => by simp [Shape.locate] at found

theorem locate_field_within : (fields : List Shape) → {index : Nat} → {path : Path} →
    {base cursor : Nat} → {region : Region} →
    locateField fields index path base cursor = some region →
      base + cursor ≤ region.start ∧ region.stop ≤ base + fieldsEnd fields cursor
  | [], _, _, _, _, _, found => by simp [locateField] at found
  | field :: fields, 0, path, base, cursor, region, found => by
      rw [locateField] at found
      have inside := locate_within field found
      have placed : cursor ≤ roundUp field.align cursor := le_round_up (align_positive field)
      have behind := cursor_le_end fields (roundUp field.align cursor + field.size)
      unfold Region.Within Region.stop at inside
      unfold Region.stop
      rw [fieldsEnd]
      simp only at inside
      omega
  | field :: fields, index + 1, path, base, cursor, region, found => by
      rw [locateField] at found
      have inside := locate_field_within fields found
      have placed : cursor ≤ roundUp field.align cursor := le_round_up (align_positive field)
      rw [fieldsEnd]
      omega

end

/-- Elements of an array with different indices do not overlap. -/
theorem elements_apart {base size left right : Nat} (differs : left ≠ right) :
    Region.Apart ⟨base + left * size, size⟩ ⟨base + right * size, size⟩ := by
  unfold Region.Apart Region.stop
  simp only
  rcases Nat.lt_or_gt_of_ne differs with before | behind
  · have bound : (left + 1) * size ≤ right * size := Nat.mul_le_mul_right size before
    rw [Nat.succ_mul] at bound
    omega
  · have bound : (right + 1) * size ≤ left * size := Nat.mul_le_mul_right size behind
    rw [Nat.succ_mul] at bound
    omega

theorem apart_symm {left right : Region} (apart : left.Apart right) : right.Apart left :=
  apart.symm

/-- The first field is in front of all others. -/
theorem first_field_apart {field : Shape} {fields : List Shape} {index : Nat}
    {path other : Path} {base cursor : Nat} {left right : Region}
    (first : field.locate path (base + roundUp field.align cursor) = some left)
    (second : locateField fields index other base (roundUp field.align cursor + field.size) =
      some right) : left.Apart right := by
  have inside := locate_within field first
  have behind := (locate_field_within fields second).1
  unfold Region.Within Region.stop at inside
  unfold Region.Apart Region.stop
  simp only at inside
  omega

mutual

/-- Different fields do not overlap. -/
theorem locate_apart : (shape : Shape) → {path other : Path} → {base : Nat} →
    {left right : Region} → shape.locate path base = some left →
    shape.locate other base = some right → path ≠ other → left.Apart right
  | .word _, [], [], _, _, _, _, _, differs => absurd rfl differs
  | .array element count, index :: path, index' :: other, base, left, right, first, second,
      differs => by
      rw [Shape.locate, Option.ite_none_right_eq_some] at first second
      by_cases same : index = index'
      · subst same
        exact locate_apart element first.2 second.2 fun equal => differs (by rw [equal])
      · exact (locate_within element first.2).apart (locate_within element second.2)
          (elements_apart same)
  | .record fields, index :: path, index' :: other, base, left, right, first, second,
      differs => by
      rw [Shape.locate] at first second
      apply locate_field_apart fields first second
      intro equal
      apply differs
      rw [(Prod.mk.inj equal).1, (Prod.mk.inj equal).2]
  | .word _, _ :: _, _, _, _, _, first, _, _ => by simp [Shape.locate] at first
  | .word _, _, _ :: _, _, _, _, _, second, _ => by simp [Shape.locate] at second
  | .array _ _, [], _, _, _, _, first, _, _ => by simp [Shape.locate] at first
  | .array _ _, _, [], _, _, _, _, second, _ => by simp [Shape.locate] at second
  | .record _, [], _, _, _, _, first, _, _ => by simp [Shape.locate] at first
  | .record _, _, [], _, _, _, _, second, _ => by simp [Shape.locate] at second

theorem locate_field_apart : (fields : List Shape) → {index index' : Nat} →
    {path other : Path} → {base cursor : Nat} → {left right : Region} →
    locateField fields index path base cursor = some left →
    locateField fields index' other base cursor = some right →
    (index, path) ≠ (index', other) → left.Apart right
  | [], _, _, _, _, _, _, _, _, first, _, _ => by simp [locateField] at first
  | field :: fields, 0, 0, path, other, base, cursor, left, right, first, second, differs => by
      rw [locateField] at first second
      exact locate_apart field first second fun equal => differs (by rw [equal])
  | field :: fields, 0, index' + 1, path, other, base, cursor, left, right, first, second, _ => by
      rw [locateField] at first
      rw [locateField] at second
      exact first_field_apart first second
  | field :: fields, index + 1, 0, path, other, base, cursor, left, right, first, second, _ => by
      rw [locateField] at first
      rw [locateField] at second
      exact apart_symm (first_field_apart second first)
  | field :: fields, index + 1, index' + 1, path, other, base, cursor, left, right, first, second,
      differs => by
      rw [locateField] at first second
      apply locate_field_apart fields first second
      intro equal
      apply differs
      rw [(Prod.mk.inj equal).1, (Prod.mk.inj equal).2]

end

/-- Read the field at the path; a path that leads nowhere reads as zero. -/
def Shape.get (shape : Shape) (base : Nat) (path : Path) (memory : Memory) : Nat :=
  match shape.locate path base with
  | none => 0
  | some region => decodeLE (read memory region.start region.size)

/-- Write the field at the path, with the low bytes of the value. -/
def Shape.set (shape : Shape) (base : Nat) (path : Path) (value : Nat) (memory : Memory) :
    Memory :=
  match shape.locate path base with
  | none => memory
  | some region => write memory region.start (encodeLE region.size value)

section Laws

variable {shape : Shape} {base value : Nat} {path other : Path} {memory : Memory}

theorem get_set_same {region : Region} (found : shape.locate path base = some region) :
    shape.get base path (shape.set base path value memory) = value % 256 ^ region.size := by
  have written := read_write_same memory region.start (encodeLE region.size value)
  rw [encode_le_length] at written
  simp only [Shape.get, Shape.set, found, written, decode_le_encode]

theorem get_set_other (differs : path ≠ other) :
    shape.get base other (shape.set base path value memory) = shape.get base other memory := by
  unfold Shape.get Shape.set
  cases first : shape.locate path base with
  | none => rfl
  | some left =>
      cases second : shape.locate other base with
      | none => rfl
      | some right =>
          have apart := locate_apart shape first second differs
          simp only
          rw [read_write_disjoint]
          rw [encode_le_length]
          exact apart.symm

theorem get_lt {region : Region} (found : shape.locate path base = some region) :
    shape.get base path memory < 256 ^ region.size := by
  have bound := decode_le_lt (read memory region.start region.size)
  rw [read_length] at bound
  simpa only [Shape.get, found] using bound

/-- A field is read from the bytes of the record. -/
theorem get_congr {memory' : Memory} (same : ∀ target, base ≤ target →
    target < base + shape.size → memory target = memory' target) :
    shape.get base path memory = shape.get base path memory' := by
  unfold Shape.get
  cases found : shape.locate path base with
  | none => rfl
  | some region =>
      have inside := locate_within shape found
      unfold Region.Within Region.stop at inside
      simp only at inside ⊢
      rw [read_congr memory memory' region.start region.size]
      intro target lower upper
      exact same target (by omega) (by omega)

/-- A write to a field stays inside of the record. -/
theorem set_outside {target : Nat} (outside : target < base ∨ base + shape.size ≤ target) :
    shape.set base path value memory target = memory target := by
  unfold Shape.set
  cases found : shape.locate path base with
  | none => rfl
  | some region =>
      have inside := locate_within shape found
      unfold Region.Within Region.stop at inside
      simp only at inside ⊢
      apply write_outside
      rw [encode_le_length]
      omega

end Laws

/-- Writes of fields, one after the other. -/
def Shape.setAll (shape : Shape) (base : Nat) (updates : List (Path × Nat)) (memory : Memory) :
    Memory :=
  updates.foldl (fun memory update => shape.set base update.1 update.2 memory) memory

section Updates

variable {shape : Shape} {base value : Nat} {path : Path} {updates : List (Path × Nat)}
  {memory : Memory}

/-- Fields that are not among the updated ones keep their values. -/
theorem get_set_all_absent (absent : path ∉ updates.map Prod.fst) :
    shape.get base path (shape.setAll base updates memory) = shape.get base path memory := by
  induction updates generalizing memory with
  | nil => rfl
  | cons update updates ih =>
      rw [List.map_cons, List.mem_cons, not_or] at absent
      exact (ih absent.2).trans (get_set_other (Ne.symm absent.1))

/-- A field that is updated once has its new value. -/
theorem get_set_all_present {region : Region} (found : shape.locate path base = some region)
    (distinct : (updates.map Prod.fst).Nodup) (present : (path, value) ∈ updates) :
    shape.get base path (shape.setAll base updates memory) = value % 256 ^ region.size := by
  induction updates generalizing memory with
  | nil => simp at present
  | cons update updates ih =>
      rw [List.map_cons, List.nodup_cons] at distinct
      rcases List.mem_cons.mp present with rfl | later
      · exact (get_set_all_absent distinct.1).trans (get_set_same found)
      · exact ih distinct.2 later

theorem set_all_outside {target : Nat}
    (outside : target < base ∨ base + shape.size ≤ target) :
    shape.setAll base updates memory target = memory target := by
  induction updates generalizing memory with
  | nil => rfl
  | cons update updates ih =>
      exact ih.trans (set_outside outside)

end Updates

end RuspiroVchiq.Lib.ReprC
