import Mathlib

/-!
# Association lists: replace, and properties of every value

`AList.replace a b s` changes the value of an existing key in place, keeping the order of the
entries; these are its lookup lemmas, proved on `List.kreplace`. `AList.Forall p s` says that
every value of `s` satisfies `p`; it is kept by the operations that change a list. Then, what
inserting the entries of a list one after the other gives. Then `AList.push`, an insertion that
appends a new key after the others: pushing the entries of a list with distinct keys rebuilds it.
Last, when the keys of a list are the keys of an association list, told by its size.
-/

namespace AList
variable {α : Type*} {β : α → Type*} [DecidableEq α]

/-- Replacing at the head key replaces the head. -/
lemma kreplace_cons_self (a : α) (b c : β a) (l : List (Sigma β)) :
    List.kreplace a b (⟨a, c⟩ :: l) = ⟨a, b⟩ :: l := by
  unfold List.kreplace
  apply List.lookmap_cons_some
  simp

/-- Replacing another key keeps the head. -/
lemma kreplace_cons_ne {a a' : α} (b : β a) (c : β a') (l : List (Sigma β)) (h : a ≠ a') :
    List.kreplace a b (⟨a', c⟩ :: l) = ⟨a', c⟩ :: List.kreplace a b l := by
  unfold List.kreplace
  apply List.lookmap_cons_none
  simp [h]

/-- Replacing a key leaves the values of the other keys. -/
lemma dlookup_kreplace_ne {a a' : α} {b : β a} (h : a' ≠ a) :
    ∀ l : List (Sigma β), (l.kreplace a b).dlookup a' = l.dlookup a' := by
  intro l
  induction l with
  | nil => rfl
  | cons c l ih =>
    obtain ⟨c1, c2⟩ := c
    by_cases hc : a = c1
    · subst hc
      rw [kreplace_cons_self, List.dlookup_cons_ne _ _ h, List.dlookup_cons_ne _ _ h]
    · rw [kreplace_cons_ne _ _ _ hc]
      by_cases h' : a' = c1
      · subst h'
        rw [List.dlookup_cons_eq, List.dlookup_cons_eq]
      · rw [List.dlookup_cons_ne _ _ h', List.dlookup_cons_ne _ _ h', ih]

/-- Replacing a present key sets its value. -/
lemma dlookup_kreplace_self {a : α} {b : β a} :
    ∀ l : List (Sigma β), a ∈ l.keys → (l.kreplace a b).dlookup a = some b := by
  intro l hl
  induction l with
  | nil => simp at hl
  | cons c l ih =>
    obtain ⟨c1, c2⟩ := c
    by_cases hc : a = c1
    · subst hc
      rw [kreplace_cons_self, List.dlookup_cons_eq]
    · rw [kreplace_cons_ne _ _ _ hc, List.dlookup_cons_ne _ _ hc]
      exact ih (by simpa [hc] using hl)

/-- Replacing a key leaves the values of the other keys. -/
@[simp] lemma lookup_replace_ne {a a' : α} {b : β a} {s : AList β} (h : a' ≠ a) :
    (s.replace a b).lookup a' = s.lookup a' :=
  dlookup_kreplace_ne h s.entries

/-- Replacing a present key sets its value. -/
lemma lookup_replace_self {a : α} {b : β a} {s : AList β} (h : a ∈ s) :
    (s.replace a b).lookup a = some b :=
  dlookup_kreplace_self s.entries (mem_keys.mp h)

/-- Replacing a key twice keeps the second value. -/
lemma kreplace_kreplace {a : α} {b b' : β a} :
    ∀ l : List (Sigma β), (l.kreplace a b).kreplace a b' = l.kreplace a b'
  | [] => rfl
  | ⟨c1, c2⟩ :: l => by
    by_cases hc : a = c1
    · subst hc
      rw [kreplace_cons_self, kreplace_cons_self, kreplace_cons_self]
    · rw [kreplace_cons_ne _ _ _ hc, kreplace_cons_ne _ _ _ hc, kreplace_cons_ne _ _ _ hc,
        kreplace_kreplace l]

/-- Replacing a key twice keeps the second value. -/
@[simp] lemma replace_replace {a : α} {b b' : β a} (s : AList β) :
    (s.replace a b).replace a b' = s.replace a b' :=
  AList.ext (kreplace_kreplace s.entries)

/-! ## Properties of every value -/

/-- Every value of the list satisfies `p`. -/
def Forall (p : ∀ a, β a → Prop) (s : AList β) : Prop :=
  ∀ a b, s.lookup a = some b → p a b

variable {p : ∀ a, β a → Prop} {s : AList β}

lemma forall_empty (p : ∀ a, β a → Prop) : Forall p (∅ : AList β) := by
  intro a b h
  simp at h

lemma Forall.erase (h : Forall p s) (a : α) : Forall p (s.erase a) := by
  intro a' b hb
  by_cases ha : a' = a
  · subst ha
    simp at hb
  · rw [lookup_erase_ne ha] at hb
    exact h a' b hb

lemma Forall.insert (h : Forall p s) {a : α} {b : β a} (hb : p a b) : Forall p (s.insert a b) := by
  intro a' b' h'
  by_cases ha : a' = a
  · subst ha
    rw [lookup_insert, Option.some.injEq] at h'
    exact h' ▸ hb
  · rw [lookup_insert_ne ha] at h'
    exact h a' b' h'

lemma Forall.replace (h : Forall p s) {a : α} {b : β a} (hb : p a b) : Forall p (s.replace a b) := by
  intro a' b' h'
  by_cases ha : a' = a
  · subst ha
    by_cases hm : a' ∈ s
    · rw [lookup_replace_self hm, Option.some.injEq] at h'
      exact h' ▸ hb
    · -- a key that is not there is not added
      have hm' : a' ∉ s.replace a' b := mem_replace.not.mpr hm
      rw [lookup_eq_none.mpr hm'] at h'
      cases h'
  · rw [lookup_replace_ne ha] at h'
    exact h a' b' h'

/-! ## Inserting the entries of a list -/

/-- Inserting the entries of a list with distinct keys, one after the other, gives each key of
the list its value there, and leaves the other keys. -/
lemma lookup_foldl_insert (a : α) :
    ∀ (l : List (Sigma β)) (s : AList β), l.NodupKeys →
      (l.foldl (fun s e => s.insert e.1 e.2) s).lookup a = (l.dlookup a).or (s.lookup a)
  | [], s, _ => by simp
  | ⟨c1, c2⟩ :: l, s, hl => by
    rw [List.nodupKeys_cons] at hl
    rw [List.foldl_cons, lookup_foldl_insert a l _ hl.2]
    by_cases ha : a = c1
    · -- a later entry cannot have the key again
      subst ha
      rw [List.dlookup_eq_none.mpr hl.1, List.dlookup_cons_eq, lookup_insert]
      rfl
    · rw [lookup_insert_ne ha, List.dlookup_cons_ne _ _ ha]

section Map

variable {γ β' : Type*} (k : γ → α) (v : γ → β')

/-- The entry of a key, in a list of entries made from a list, is made from the first element
with that key. -/
lemma dlookup_map (a : α) :
    ∀ l : List γ, (l.map fun x => (⟨k x, v x⟩ : Σ _ : α, β')).dlookup a =
      (l.find? fun x => k x = a).map v
  | [] => rfl
  | x :: l => by
    by_cases hx : k x = a
    · subst hx
      simp
    · rw [List.map_cons, List.dlookup_cons_ne _ _ (Ne.symm hx), dlookup_map a l,
        List.find?_cons_of_neg (by simpa using hx)]

/-- Inserting, one after the other, the entries made from a list with distinct keys gives each
key the value made from the element with that key. -/
lemma lookup_foldl_insert_map (a : α) (l : List γ) (hl : (l.map k).Nodup) :
    (l.foldl (fun (s : AList fun _ : α => β') x => s.insert (k x) (v x)) ∅).lookup a =
      (l.find? fun x => k x = a).map v := by
  have hkeys : (l.map fun x => (⟨k x, v x⟩ : Σ _ : α, β')).NodupKeys := by
    simpa [List.NodupKeys, List.keys, Function.comp_def] using hl
  have hfold := lookup_foldl_insert a _ ∅ hkeys
  rw [List.foldl_map] at hfold
  rw [hfold, dlookup_map]
  simp

end Map

/-! ## Appending an entry -/

/-- Insert at the end: a new key goes after the keys there, a key that is there takes the new
value in its place. -/
def push (a : α) (b : β a) (s : AList β) : AList β :=
  if a ∈ s then s.replace a b else s ∪ singleton a b

/-- Adding an entry whose key is not in a list at its end. -/
lemma kunion_singleton {a : α} {b : β a} :
    ∀ l : List (Sigma β), a ∉ l.keys → l.kunion [⟨a, b⟩] = l ++ [⟨a, b⟩]
  | [], _ => List.nil_kunion
  | ⟨c1, c2⟩ :: l, h => by
    rw [List.keys_cons, List.mem_cons, not_or] at h
    rw [List.kunion_cons, List.kerase_of_notMem_keys (by simpa [eq_comm] using h.1),
      kunion_singleton l h.2]
    rfl

/-- A new key is appended. -/
lemma entries_push_of_notMem {a : α} {b : β a} {s : AList β} (h : a ∉ s) :
    (s.push a b).entries = s.entries ++ [⟨a, b⟩] := by
  rw [push, if_neg h, union_entries, singleton_entries, kunion_singleton _ h]

/-- Pushing the entries of a list with keys not yet there appends them, in their order. -/
lemma entries_foldl_push :
    ∀ (l : List (Sigma β)) (s : AList β), (s.entries ++ l).NodupKeys →
      (l.foldl (fun t e => t.push e.1 e.2) s).entries = s.entries ++ l
  | [], s, _ => by simp
  | e :: l, s, hl => by
    -- the key of the head is not among the keys of `s`
    have hc : e.1 ∉ s := by
      rw [List.NodupKeys, List.keys_append, List.keys_cons, List.nodup_append] at hl
      exact fun hm => hl.2.2 _ hm _ List.mem_cons_self rfl
    have hpush := entries_push_of_notMem (b := e.2) hc
    rw [List.foldl_cons, entries_foldl_push l _ (by rwa [hpush, List.append_assoc]), hpush,
      List.append_assoc, List.singleton_append]

/-- Pushing the entries of an association list, one after the other, rebuilds it. -/
lemma foldl_push_entries (s : AList β) : s.entries.foldl (fun t e => t.push e.1 e.2) ∅ = s :=
  ext (by simpa using entries_foldl_push s.entries ∅ (by simpa using s.nodupKeys))

omit [DecidableEq α] in
/-- A list of distinct keys has exactly the keys of an association list when it has as many
entries as the association list and each of its keys is there. -/
lemma mem_iff_of_length_eq {s : AList β} {l : List α} (hl : l.Nodup) :
    (s.entries.length = l.length ∧ ∀ a ∈ l, a ∈ s) ↔ ∀ a, a ∈ s ↔ a ∈ l := by
  have hkeys : s.keys.length = s.entries.length := List.length_map _
  constructor
  · rintro ⟨hlen, hsub⟩
    -- `l` is a sub-permutation of the keys, of the same length, so a permutation of them
    have hperm : l.Perm s.keys :=
      (List.subperm_of_subset hl fun a ha => mem_keys.1 (hsub a ha)).perm_of_length_le (by omega)
    exact fun a => by rw [mem_keys, hperm.mem_iff]
  · intro hmem
    have hperm : l.Perm s.keys :=
      (List.perm_ext_iff_of_nodup hl s.keys_nodup).2 fun a => by rw [← mem_keys, hmem]
    exact ⟨by rw [← hkeys, hperm.length_eq], fun a ha => (hmem a).2 ha⟩

end AList
