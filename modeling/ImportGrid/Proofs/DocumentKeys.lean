/-
The keys of a document.

A reader of documents keeps the tables as lists of entries, and a look-up finds the first entry of a key.
There is only one: an entry is added behind the others if its key is not there yet, and otherwise what
stands at the key is changed.  Of a change deep in a document the table at its root sees that the value of
one key is replaced, or nothing but a new key (`nodup_keys_of_update`).  Every line makes such changes, so
no key stands at the root of a document twice (`nodup_keys_of_readDocument?`).
-/
import Mathlib.Data.List.Nodup
import Mathlib.Tactic.Common
import ImportGrid.Toml.Reader

namespace ImportGrid.Toml

namespace Entries

/-! ## Changes of a table -/

/-- The keys of a table. -/
def keys (es : Entries) : List Text := es.map (·.1)

/-- The entries of the table that a key holds. -/
def below (key : Text) (es : Entries) : Entries :=
  match get? key es with
  | some (.table _ inner) => inner
  | _ => []

lemma get?_eq_none_iff {key : Text} {es : Entries} : get? key es = none ↔ key ∉ keys es := by
  rw [get?, List.lookup_eq_none_iff, keys, List.mem_map]
  constructor
  · rintro h ⟨e, he, rfl⟩
    simpa using h e he
  · intro h e he
    exact bne_iff_ne.2 fun hkey => h ⟨e, he, hkey.symm⟩

lemma keys_replace (key : Text) (v : Value) (es : Entries) : keys (replace key v es) = keys es := by
  rw [keys, replace, List.map_map]
  refine List.map_congr_left fun e _ => ?_
  rw [Function.comp_apply]
  split
  · next he => exact he.symm
  · rfl

/-- A new key at the end. -/
lemma nodup_keys_append {es : Entries} (hn : (keys es).Nodup) {key : Text} (hkey : key ∉ keys es)
    (v : Value) : (keys (es ++ [(key, v)])).Nodup := by
  have hmap : keys (es ++ [(key, v)]) = (keys es).concat key := by simp [keys]
  rw [hmap]
  exact List.Nodup.concat hkey hn

lemma nodup_keys_of_add {es es' : Entries} (hn : (keys es).Nodup) {key : Text} {v : Value}
    (h : add key v es = some es') : (keys es').Nodup := by
  unfold add at h
  split at h
  · cases h
  · next hkey =>
    cases h
    exact nodup_keys_append hn (get?_eq_none_iff.1 (by simpa using hkey)) v

/-- Changing a table repeats no key in the table that the path starts from, if the change repeats none. -/
lemma nodup_keys_of_update {form : TableForm} {enter : TableForm → Bool}
    {change : TableForm → Entries → Option Entries} {path : List Text} {here : TableForm}
    {es es' : Entries}
    (hchange : ∀ here es es', change here es = some es' → (keys es).Nodup → (keys es').Nodup)
    (hn : (keys es).Nodup) (h : update form enter change path here es = some es') :
    (keys es').Nodup := by
  cases path with
  | nil => exact hchange here es es' (by simpa [update] using h) hn
  | cons key path =>
    unfold update at h
    split at h
    · next hkey =>
      obtain ⟨inner, -, rfl⟩ := Option.map_eq_some_iff.1 h
      exact nodup_keys_append hn (get?_eq_none_iff.1 hkey) _
    · split at h
      · obtain ⟨inner, -, rfl⟩ := Option.map_eq_some_iff.1 h
        rwa [keys_replace]
      · cases h
    · split at h
      · obtain ⟨last, -, rfl⟩ := Option.map_eq_some_iff.1 h
        rwa [keys_replace]
      · cases h
    · cases h

lemma nodup_keys_of_openTable {path : List Text} {key : Text} {root root' : Entries}
    (hn : (keys root).Nodup) (h : openTable path key root = some root') : (keys root').Nodup := by
  refine nodup_keys_of_update ?_ hn h
  intro _ es es' hes hn
  split at hes
  · next hkey =>
    cases hes
    exact nodup_keys_append hn (get?_eq_none_iff.1 hkey) _
  · cases hes
    refine nodup_keys_append (hn.sublist (List.filter_sublist.map _)) ?_ _
    simp [keys]
  · cases hes

lemma nodup_keys_of_openRepeated {path : List Text} {key : Text} {root root' : Entries}
    (hn : (keys root).Nodup) (h : openRepeated path key root = some root') : (keys root').Nodup := by
  refine nodup_keys_of_update ?_ hn h
  intro _ es es' hes hn
  split at hes
  · next hkey =>
    cases hes
    exact nodup_keys_append hn (get?_eq_none_iff.1 hkey) _
  · cases hes
    rwa [keys_replace]
  · cases hes

lemma nodup_keys_of_addUnder {current path : List Text} {key : Text} {v : Value} {root root' : Entries}
    (hn : (keys root).Nodup) (h : addUnder current path key v root = some root') :
    (keys root').Nodup := by
  refine nodup_keys_of_update (fun here es es' hes hn => ?_) hn h
  refine nodup_keys_of_update (fun _ inner inner' hinner hn => ?_) hn hes
  split at hinner
  · cases hinner
  · exact nodup_keys_of_add hn hinner

end Entries

/-! ## Lines of a document -/

open Entries

lemma nodup_keys_of_readHeader? {d d' : Document} {t rest : Text} (hn : (keys d.root).Nodup)
    (h : readHeader? d t = some (d', rest)) : (keys d'.root).Nodup := by
  unfold readHeader? at h
  split at h
  · split at h
    · simp only [Option.bind_eq_bind, Option.bind_eq_some_iff, Option.pure_def, Option.some.injEq,
        Prod.mk.injEq] at h
      obtain ⟨root, hroot, -, -, rfl, -⟩ := h
      exact nodup_keys_of_openRepeated hn hroot
    · cases h
  · split at h
    · simp only [Option.bind_eq_bind, Option.bind_eq_some_iff, Option.pure_def, Option.some.injEq,
        Prod.mk.injEq] at h
      obtain ⟨root, hroot, -, -, rfl, -⟩ := h
      exact nodup_keys_of_openTable hn hroot
    · cases h

lemma nodup_keys_of_readMember? {d d' : Document} {t rest : Text} (hn : (keys d.root).Nodup)
    (h : readMember? d t = some (d', rest)) : (keys d'.root).Nodup := by
  unfold readMember? at h
  split at h
  · simp only [Option.bind_eq_bind, Option.bind_eq_some_iff, Option.pure_def, Option.some.injEq,
      Prod.mk.injEq] at h
    obtain ⟨v, -, root, hroot, -, -, rfl, -⟩ := h
    exact nodup_keys_of_addUnder hn hroot
  · cases h

lemma nodup_keys_of_readLines? {fuel : Nat} {d : Document} {t : Text} {es : Entries}
    (hn : (keys d.root).Nodup) (h : readLines? fuel d t = some es) : (keys es).Nodup := by
  induction fuel generalizing d t with
  | zero => cases h
  | succ fuel ih =>
    unfold readLines? at h
    split at h
    · cases h
      exact hn
    · obtain ⟨⟨d', rest⟩, hd, h⟩ := Option.bind_eq_some_iff.1 h
      exact ih (nodup_keys_of_readHeader? hn hd) h
    · split at h
      · obtain ⟨rest, -, h⟩ := Option.bind_eq_some_iff.1 h
        exact ih hn h
      · obtain ⟨⟨d', rest⟩, hd, h⟩ := Option.bind_eq_some_iff.1 h
        exact ih (nodup_keys_of_readMember? hn hd) h

/-- No key stands at the root of a document twice. -/
theorem nodup_keys_of_readDocument? {t : Text} {es : Entries} (h : readDocument? t = some es) :
    (keys es).Nodup :=
  nodup_keys_of_readLines? (d := ⟨[], []⟩) List.nodup_nil h

end ImportGrid.Toml
