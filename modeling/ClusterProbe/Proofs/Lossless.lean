/-
  ClusterProbe.Proofs.Lossless — writing and reading that lose nothing.

  A way of writing goes with a way of reading when each value is read as what it was
  (`Lossless`). That is so of texts, integers, lists and maps. A structure writes fields
  of its own names, of which some may be missing (`Labelled`); what it writes has no
  name twice, so that its reader takes it (`members?_record`) and finds under each name
  what was written there, past the fields of other names (`required_field`,
  `withDefault_field`, `optional_field?` and the lemmas for skipping).

  - `Lossless.closed`: a structure is lossless when it puts itself together again from
    the members it writes; for a given one simp sees that.
-/

import Mathlib.Data.List.Nodup
import ClusterProbe.Proofs.Wire
import ClusterProbe.Proofs.WrittenText

namespace ClusterProbe.Json

variable {α β : Type}

/-! ## Values -/

/-- What is written is exact JSON, and is read as what it was; null is not read. -/
class Lossless (write : α → Json) (read : outParam (Json → Option α)) : Prop where
  reads : ∀ a, read (write a) = some a
  exact : ∀ a, (write a).isExact = true
  null : read .null = none

theorem isExactItems_of_forall {xs : List Json} (h : ∀ x ∈ xs, x.isExact = true) : isExactItems xs = true := by
  induction xs with
  | nil => rfl
  | cons x r ih =>
    rw [List.forall_mem_cons] at h
    rw [isExactItems, h.1, ih h.2, Bool.and_self]

theorem isExactMembers_of_forall {ms : List (String × Json)} (h : ∀ m ∈ ms, m.2.isExact = true) :
    isExactMembers ms = true := by
  induction ms with
  | nil => rfl
  | cons m r ih =>
    rw [List.forall_mem_cons] at h
    rw [isExactMembers, h.1, ih h.2, Bool.and_self]

instance : Lossless Json.string string? := ⟨fun _ => rfl, fun _ => rfl, rfl⟩

theorem isExact_int {n : Int} (hlo : -9223372036854775808 ≤ n) (hhi : n < 9223372036854775808) :
    (int n).isExact = true := by
  have hlimit : (wordLimit : Int) = 18446744073709551616 := rfl
  simp only [int, isExact, hlimit, Bool.and_eq_true, decide_eq_true_eq]
  omega

instance : Lossless ofInt64 int64? := ⟨int64?_ofInt64, fun n => isExact_int n.le_toInt n.toInt_lt, rfl⟩

instance : Lossless ofInt32 int32? :=
  ⟨int32?_ofInt32, fun n => isExact_int (by have := n.le_toInt; omega) (by have := n.toInt_lt; omega), rfl⟩

section Containers

variable {write : α → Json} {read : Json → Option α}

instance [h : Lossless write read] : Lossless (ofList write) (list? read) where
  reads := list?_ofList h.reads
  exact _ := isExactItems_of_forall (List.forall_mem_map.mpr fun a _ => h.exact a)
  null := rfl

instance [h : Lossless write read] : Lossless (ofDict write) (dict? read) where
  reads := dict?_ofDict h.reads
  exact _ := isExactMembers_of_forall (List.forall_mem_map.mpr fun e _ => h.exact e.2)
  null := rfl

theorem nullable_write [h : Lossless write read] (a : α) : nullable read (write a) = some (some a) := by
  have hreads := h.reads a
  cases hw : write a with
  | null =>
    rw [hw, h.null] at hreads
    cases hreads
  | _ => simp [nullable, ← hw, hreads]

end Containers

/-! ## Structures -/

/-- The members that are there. -/
def members (fs : List (Option (String × Json))) : List (String × Json) := fs.filterMap id

/-- The fields carry these names, as far as they are there, and exact values. -/
inductive Labelled : List String → List (Option (String × Json)) → Prop
  | nil : Labelled [] []
  | cons {k : String} {ks : List String} {f : Option (String × Json)} {fs : List (Option (String × Json))} :
      (∀ m, f = some m → m.1 = k ∧ m.2.isExact = true) → Labelled ks fs → Labelled (k :: ks) (f :: fs)

namespace Labelled

variable {ks : List String} {fs : List (Option (String × Json))} {write : α → Json} {read : Json → Option α}

theorem field [h : Lossless write read] {k : String} {a : α} (hfs : Labelled ks fs) :
    Labelled (k :: ks) (Json.field k (write a) :: fs) := by
  refine .cons ?_ hfs
  rintro _ ⟨⟩
  exact ⟨rfl, h.exact a⟩

theorem field? [h : Lossless write read] {k : String} {x : Option α} (hfs : Labelled ks fs) :
    Labelled (k :: ks) (Json.field? k write x :: fs) := by
  refine .cons (fun m hm => ?_) hfs
  obtain ⟨a, -, rfl⟩ := Option.map_eq_some_iff.mp hm
  exact ⟨rfl, h.exact a⟩

theorem mem_members (h : Labelled ks fs) {m : String × Json} (hm : m ∈ members fs) : m.1 ∈ ks ∧ m.2.isExact = true := by
  induction h with
  | nil => cases hm
  | @cons k ks f fs hf _ ih =>
    cases f with
    | none => exact ⟨List.mem_cons_of_mem _ (ih hm).1, (ih hm).2⟩
    | some m' =>
      rcases List.mem_cons.mp hm with rfl | hm
      · exact ⟨(hf _ rfl).1 ▸ List.mem_cons_self, (hf _ rfl).2⟩
      · exact ⟨List.mem_cons_of_mem _ (ih hm).1, (ih hm).2⟩

theorem isExact_record (h : Labelled ks fs) : (record fs).isExact = true :=
  isExactMembers_of_forall fun _ hm => (h.mem_members hm).2

/-- Names that differ are given once. -/
theorem nodup_members (h : Labelled ks fs) (hks : ks.Nodup) : ((members fs).map (·.1)).Nodup := by
  induction h with
  | nil => exact .nil
  | @cons k ks f fs hf hfs ih =>
    rw [List.nodup_cons] at hks
    cases f with
    | none => exact ih hks.2
    | some m =>
      refine List.nodup_cons.mpr ⟨fun hm => ?_, ih hks.2⟩
      obtain ⟨m', hm', hname⟩ := List.mem_map.mp hm
      have hk := (hfs.mem_members hm').1
      rw [show m'.1 = m.1 from hname, (hf m rfl).1] at hk
      exact hks.1 hk

/-- A structure takes any object whose names differ. -/
theorem members?_record (h : Labelled ks fs) (hks : ks.Nodup) (names : List String) :
    members? names (record fs) = some (members fs) := by
  have honce : ∀ k, (named k (members fs)).length ≤ 1 := by
    intro k
    have hcount := List.nodup_iff_count_le_one.mp (h.nodup_members hks) k
    rwa [List.count, List.countP_map, List.countP_eq_length_filter] at hcount
  exact if_pos (List.all_eq_true.mpr fun k _ => decide_eq_true (honce k))

end Labelled

/-! ## Reading members -/

section Reading

variable {write : α → Json} {read : Json → Option α} {k k' : String} {fs : List (Option (String × Json))}

@[simp] theorem lookup_members_field (j : Json) :
    (members (field k j :: fs)).lookup k' = if k' = k then some j else (members fs).lookup k' := by
  simp only [members, field, List.filterMap_cons_some (show id (some (k, j)) = some (k, j) from rfl), List.lookup_cons]
  by_cases h : k' = k
  · simp [h]
  · simp [h, beq_eq_false_iff_ne.mpr h]

@[simp] theorem lookup_members_field? (x : Option α) :
    (members (field? k write x :: fs)).lookup k' =
      if k' = k then (x.map write).or ((members fs).lookup k') else (members fs).lookup k' := by
  cases x with
  | none => simp [members, field?]
  | some a => exact (lookup_members_field (write a)).trans (by simp)

@[simp] theorem lookup_members_nil : (members []).lookup k = none := by simp [members]

@[simp] theorem optional_nil (read : Json → Option β) : optional read k (members []) = some none := rfl

@[simp] theorem required_field [h : Lossless write read] (a : α) :
    required read k (members (field k (write a) :: fs)) = some a := by
  simp [required, lookup_members_field, h.reads]

@[simp] theorem withDefault_field [h : Lossless write read] (d a : α) :
    withDefault d read k (members (field k (write a) :: fs)) = some a := by
  simp [withDefault, lookup_members_field, h.reads]

@[simp] theorem optional_field? [h : Lossless write read] (x : Option α) (hfs : (members fs).lookup k = none) :
    optional read k (members (field? k write x :: fs)) = some x := by
  cases x <;> simp [optional, withDefault, lookup_members_field?, hfs, nullable_write]

/-- A map that is left out for being empty is read as the default. -/
@[simp] theorem withDefault_field? [h : Lossless write read] (d : α) (x : Option α)
    (hfs : (members fs).lookup k = none) :
    withDefault d read k (members (field? k write x :: fs)) = some (x.getD d) := by
  cases x <;> simp [withDefault, lookup_members_field?, hfs, h.reads]

@[simp] theorem required_skip {read : Json → Option β} (hk : k' ≠ k) (j : Json) :
    required read k' (members (field k j :: fs)) = required read k' (members fs) := by
  simp [required, lookup_members_field, hk]

@[simp] theorem required_skip? {read : Json → Option β} (hk : k' ≠ k) (x : Option α) :
    required read k' (members (field? k write x :: fs)) = required read k' (members fs) := by
  simp [required, lookup_members_field?, hk]

@[simp] theorem withDefault_skip {read : Json → Option β} (hk : k' ≠ k) (d : β) (j : Json) :
    withDefault d read k' (members (field k j :: fs)) = withDefault d read k' (members fs) := by
  simp [withDefault, lookup_members_field, hk]

@[simp] theorem withDefault_skip? {read : Json → Option β} (hk : k' ≠ k) (d : β) (x : Option α) :
    withDefault d read k' (members (field? k write x :: fs)) = withDefault d read k' (members fs) := by
  simp [withDefault, lookup_members_field?, hk]

@[simp] theorem optional_skip {read : Json → Option β} (hk : k' ≠ k) (j : Json) :
    optional read k' (members (field k j :: fs)) = optional read k' (members fs) := withDefault_skip hk none j

@[simp] theorem optional_skip? {read : Json → Option β} (hk : k' ≠ k) (x : Option α) :
    optional read k' (members (field? k write x :: fs)) = optional read k' (members fs) := withDefault_skip? hk none x

end Reading

/-- A structure that is read by its members is lossless when it has each of them back. -/
theorem Lossless.closed {write : α → Json} {read : Json → Option α} (ks : List String) {names : List String}
    {fields : α → List (Option (String × Json))} {build : List (String × Json) → Option α}
    (hwrite : ∀ a, write a = record (fields a)) (hread : ∀ j, read j = (members? names j).bind build)
    (hks : ks.Nodup) (hfields : ∀ a, Labelled ks (fields a)) (hbuild : ∀ a, build (members (fields a)) = some a) :
    Lossless write read where
  reads a := by rw [hwrite, hread, (hfields a).members?_record hks, Option.bind_some, hbuild]
  exact a := by rw [hwrite, (hfields a).isExact_record]
  null := hread .null

end ClusterProbe.Json
