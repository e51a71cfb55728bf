/-
  ClusterProbe.Proofs.Selectors — the text of a selector denotes the labels it was made of.

  A deployment's labels are written as parts `key=value`, joined by commas. Keys may hold
  neither sign, and values no comma (`Separable`); they may be empty, and a value may hold
  further equals signs. Cut at its commas, and each part at its first equals sign, the
  text gives the entries back as they stand in the map, by increasing key and each once
  (`cut_selectorText`).

  - `Deployment.selector?_denotes`: there is a text unless there are no labels, and two
    deployments have the same text just when they have the same labels.
-/

import ClusterProbe.Resource.Workload
import ClusterProbe.Text.Parts

namespace ClusterProbe

/-! ## Cutting -/

/-- Key and value of a part, if it has an equals sign. -/
def cutAtEquals? (part : List Char) : Option (String × String) :=
  match part.dropWhile (· != '=') with
  | [] => none
  | _ :: value => some (String.ofList (part.takeWhile (· != '=')), String.ofList value)

/-- The parts of a selector's text, cut into keys and values. -/
def cutSelector (text : String) : List (Option (String × String)) := (Text.splitAt ',' text.toList).map cutAtEquals?

theorem cutAtEquals?_part {key : String} (h : '=' ∉ key.toList) (value : String) :
    cutAtEquals? (key ++ "=" ++ value).toList = some (key, value) := by
  have htext : (key ++ "=" ++ value).toList = key.toList ++ '=' :: value.toList := by simp
  rw [htext, cutAtEquals?, Text.dropWhile_append h, Text.takeWhile_append h]
  simp

/-! ## Labels -/

/-- No key holds a comma or an equals sign, and no value a comma. -/
def Separable (labels : Dict String) : Prop :=
  ∀ e ∈ labels.entries, ',' ∉ e.1.toList ∧ '=' ∉ e.1.toList ∧ ',' ∉ e.2.toList

instance (labels : Dict String) : Decidable (Separable labels) :=
  inferInstanceAs (Decidable (∀ e ∈ labels.entries, _))

/-- How labels are written in a selector. -/
def selectorText (labels : Dict String) : String := ",".intercalate (labels.entries.map fun e => e.1 ++ "=" ++ e.2)

theorem intercalate_cons (sep : Char) (p : List Char) (ps : List (List Char)) :
    [sep].intercalate (p :: ps) = p ++ ps.flatMap (sep :: ·) := by
  induction ps generalizing p with
  | nil => simp
  | cons q ps ih => rw [List.intercalate_cons_cons, ih, List.flatMap_cons]; simp

/-- The entries are found in the text again, in their order and each of them once. -/
theorem cut_selectorText {labels : Dict String} (hsome : labels.entries ≠ []) (h : Separable labels) :
    cutSelector (selectorText labels) = labels.entries.map some := by
  have hcomma : ∀ p ∈ (labels.entries.map fun e => e.1 ++ "=" ++ e.2).map String.toList, ',' ∉ p := by
    simp only [List.map_map, List.forall_mem_map]
    intro e he
    obtain ⟨hkey, -, hvalue⟩ := h e he
    simp [hkey, hvalue]
  have hparts : Text.splitAt ',' (selectorText labels).toList =
      (labels.entries.map fun e => e.1 ++ "=" ++ e.2).map String.toList := by
    rw [selectorText, String.toList_intercalate, show ",".toList = [','] from rfl]
    rcases hps : (labels.entries.map fun e => e.1 ++ "=" ++ e.2).map String.toList with _ | ⟨p, ps⟩
    · simp [hsome] at hps
    · rw [hps, List.forall_mem_cons] at hcomma
      rw [hps, intercalate_cons, Text.splitAt_joined hcomma.1 hcomma.2]
  rw [cutSelector, hparts, List.map_map, List.map_map]
  refine List.map_congr_left ?_
  intro e he
  exact cutAtEquals?_part (h e he).2.1 e.2

namespace Deployment

variable {d d' : Deployment} {labels labels' : Dict String}

theorem selector?_eq_none_iff : d.selector? = none ↔ d.matchLabels? = none ∨ d.matchLabels? = some .empty := by
  unfold selector?
  rcases d.matchLabels? with _ | labels
  · simp
  · rcases labels with ⟨_ | ⟨e, es⟩, hsorted⟩
    · simp [Dict.isEmpty, Dict.empty]
    · simp [Dict.isEmpty, Dict.empty]

/-- The deployment goes by these labels, which there are some of and which can be told apart in a text. -/
structure GoesBy (d : Deployment) (labels : Dict String) : Prop where
  given : d.matchLabels? = some labels
  nonempty : labels ≠ .empty
  separable : Separable labels

namespace GoesBy

theorem entries_ne_nil (h : d.GoesBy labels) : labels.entries ≠ [] := fun hnone => h.nonempty (Dict.ext hnone)

theorem selector?_eq (h : d.GoesBy labels) : d.selector? = some (selectorText labels) := by
  have hsome : labels.isEmpty = false := by simpa [Dict.isEmpty] using h.entries_ne_nil
  rw [selector?, h.given]
  simp [hsome, selectorText]

theorem labels_eq (h : d.GoesBy labels) (h' : d'.GoesBy labels') (htext : selectorText labels = selectorText labels') :
    labels = labels' := by
  have hcut := cut_selectorText h.entries_ne_nil h.separable
  rw [htext, cut_selectorText h'.entries_ne_nil h'.separable] at hcut
  exact Dict.ext ((List.map_inj_right fun _ _ => Option.some.inj).mp hcut.symm)

end GoesBy

/-- A deployment has a selector's text unless it has no labels. Cut again, the text gives the entries of the labels in
the order of their keys, so that two deployments have the same text exactly if they have the same labels. -/
theorem selector?_denotes :
    (∀ d : Deployment, d.selector? = none ↔ d.matchLabels? = none ∨ d.matchLabels? = some .empty) ∧
      (∀ (d : Deployment) (labels : Dict String), d.GoesBy labels →
        ∃ text, d.selector? = some text ∧ cutSelector text = labels.entries.map some) ∧
      ∀ (d d' : Deployment) (labels labels' : Dict String), d.GoesBy labels → d'.GoesBy labels' →
        (d.selector? = d'.selector? ↔ d.matchLabels? = d'.matchLabels?) := by
  refine ⟨fun d => selector?_eq_none_iff, ?_, ?_⟩
  · intro d labels h
    exact ⟨_, h.selector?_eq, cut_selectorText h.entries_ne_nil h.separable⟩
  · intro d d' labels labels' h h'
    rw [h.selector?_eq, h'.selector?_eq, h.given, h'.given, Option.some.injEq, Option.some.injEq]
    constructor
    · exact h.labels_eq h'
    · rintro rfl
      rfl

/-- An entry of an empty key and an empty value, and a value with an equals sign of its own. -/
theorem selector?_denotes_of_odd_labels :
    let labels := Dict.ofList [("app", "a=b"), ("", "")]
    let labels' := Dict.ofList [("app", "a=b")]
    let deployment (labels : Dict String) : Deployment := ⟨{}, some ⟨{ matchLabels := some labels }, {}⟩⟩
    (deployment labels).GoesBy labels ∧ (deployment labels').GoesBy labels' ∧
      (deployment labels).selector? = some "=,app=a=b" ∧
      cutSelector "=,app=a=b" = [some ("", ""), some ("app", "a=b")] ∧
      (deployment labels).selector? ≠ (deployment labels').selector? := by
  intro labels labels' deployment
  have h : (deployment labels).GoesBy labels := ⟨rfl, by decide +kernel, by decide +kernel⟩
  have h' : (deployment labels').GoesBy labels' := ⟨rfl, by decide +kernel, by decide +kernel⟩
  obtain ⟨-, hdenotes, hsame⟩ := selector?_denotes
  have htext : (deployment labels).selector? = some "=,app=a=b" := by decide +kernel
  obtain ⟨text, hselector, hcut⟩ := hdenotes _ _ h
  rw [htext, Option.some.injEq] at hselector
  refine ⟨h, h', htext, ?_, ?_⟩
  · rw [hselector, hcut]
    decide +kernel
  · rw [Ne, hsame _ _ _ _ h h']
    decide +kernel

end Deployment

end ClusterProbe
