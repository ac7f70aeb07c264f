import Mathlib.Data.List.Infix
import Mathlib.Data.List.DropRight

/-
Cutting, trimming and scanning lists: what a parser of short texts and a
validator that walks a list of entries do, generic over the element
type.

# What lives here

- `cut`: the list before and after the first occurrence of a separator,
  as Go's `strings.SplitN(s, sep, 2)` returns it when
  `strings.Contains(s, sep)`. It finds one exactly when the separator
  occurs (`cut_eq_none_iff`), gives back the list it cut
  (`append_of_cut_eq_some`), and cuts a list built around a separator at
  that separator when the separator's first element does not occur
  before it (`cut_append`).
- `trim`: the list without the elements a predicate holds of at either
  end (`strings.TrimFunc`). Padding on either side is trimmed away
  (`trim_append_of_all`), a list with neither end to trim is kept
  (`trim_eq_self`), what is left has neither (`trim_head`,
  `trim_getLast`), and a list is its trim with padding on either side
  (`trim_decompose`).
- `scan`: the loop of a validator over a list of entries, each checked
  on its own and then refused when its key, if it has one, was seen
  before; the map of seen keys holds a value the refusal names. It
  passes exactly when every entry passes its check and the keys are
  distinct and unseen (`scan_eq_none_iff`; from nothing seen,
  `scan_nil_eq_none_iff`), and a refusal is one of an entry's
  (`scan_eq_some`).

Nothing in this file names the modelled repository.
-/

namespace Text

variable {α : Type*} [DecidableEq α]

-- ============================= cut

/-- `l` cut around the first occurrence of `sep`: what stands before it
and what stands after it, `none` when `sep` does not occur. -/
def cut (sep : List α) : List α → Option (List α × List α)
  | [] => if sep = [] then some ([], []) else none
  | a :: l =>
    if sep <+: a :: l then some ([], (a :: l).drop sep.length)
    else (cut sep l).map fun p => (a :: p.1, p.2)

/-- What a cut leaves puts the list back together. -/
theorem append_of_cut_eq_some {sep l a b : List α} (h : cut sep l = some (a, b)) :
    a ++ sep ++ b = l := by
  induction l generalizing a b with
  | nil =>
    unfold cut at h
    split at h
    · next hsep =>
      cases h
      simp [hsep]
    · cases h
  | cons x l ih =>
    unfold cut at h
    split at h
    · next hpre =>
      cases h
      rw [List.nil_append]
      exact List.prefix_iff_eq_append.mp hpre
    · obtain ⟨⟨a', b'⟩, hcut, hp⟩ := Option.map_eq_some_iff.mp h
      cases hp
      show x :: a' ++ sep ++ b' = x :: l
      rw [List.cons_append, List.cons_append, ih hcut]

/-- A separator whose first element does not occur before it is found
where it stands. -/
theorem cut_append {s : α} {sep a b : List α} (ha : s ∉ a) :
    cut (s :: sep) (a ++ (s :: sep) ++ b) = some (a, b) := by
  induction a with
  | nil =>
    have hpre : s :: sep <+: s :: (sep ++ b) := List.prefix_append (s :: sep) b
    rw [List.nil_append, List.cons_append, cut, if_pos hpre, ← List.cons_append, List.drop_left]
  | cons x a ih =>
    have hx : x ≠ s := fun h => ha (h ▸ List.mem_cons_self)
    have hnot : ¬ (s :: sep) <+: x :: (a ++ (s :: sep) ++ b) := by
      rw [List.cons_prefix_cons]
      exact fun h => hx h.1.symm
    rw [List.cons_append, List.cons_append, cut, if_neg (by simpa using hnot),
      ih (fun h => ha (List.mem_cons_of_mem x h)), Option.map_some]

-- ============================ trim

section trim

variable {β : Type*} (p : β → Bool)

/-- `l` without the elements `p` holds of at either end: from the front,
then from the back. -/
def trim (l : List β) : List β := (l.dropWhile p).rdropWhile p

theorem rdropWhile_append_of_all {d v : List β} (hv : ∀ x ∈ v, p x) :
    (d ++ v).rdropWhile p = d.rdropWhile p := by
  unfold List.rdropWhile
  rw [List.reverse_append, List.dropWhile_append_of_pos (by simpa using hv)]

/-- Padding that `p` holds of throughout is trimmed away. -/
theorem trim_append_of_all {u l v : List β} (hu : ∀ x ∈ u, p x) (hv : ∀ x ∈ v, p x) :
    trim p (u ++ l ++ v) = trim p l := by
  unfold trim
  rw [List.append_assoc, List.dropWhile_append_of_pos hu, List.dropWhile_append]
  split
  · next hl =>
    -- `l` is all padding, and so is the rest
    rw [List.isEmpty_iff.mp hl, List.dropWhile_eq_nil_iff.mpr hv]
  · exact rdropWhile_append_of_all p hv

/-- A list with neither end to trim is its own trim. -/
theorem trim_eq_self {l : List β} (hh : ∀ x ∈ l.head?, p x = false)
    (hl : ∀ x ∈ l.getLast?, p x = false) : trim p l = l := by
  unfold trim
  have hdrop : l.dropWhile p = l := by
    cases l with
    | nil => rfl
    | cons x l => exact List.dropWhile_cons_of_neg (by simpa using hh x rfl)
  rw [hdrop, List.rdropWhile_eq_self_iff]
  intro hne
  simpa using hl _ (List.getLast?_eq_some_getLast hne)

/-- A list with nothing to trim is its own trim. -/
theorem trim_eq_self_of_all {l : List β} (h : ∀ x ∈ l, p x = false) : trim p l = l :=
  trim_eq_self p (fun x hx => h x (List.mem_of_mem_head? hx))
    (fun x hx => h x (List.mem_of_mem_getLast? hx))

/-- What is left has no element `p` holds of in front. -/
theorem trim_head {l : List β} : ∀ x ∈ (trim p l).head?, p x = false := by
  intro x hx
  -- the front of the trim is the front of what the first drop left
  have hpre : trim p l <+: l.dropWhile p := List.rdropWhile_prefix p _
  obtain ⟨t, ht⟩ := hpre
  have hd : (l.dropWhile p).head? = some x := by
    rw [← ht, List.head?_append, Option.mem_def.mp hx]
    rfl
  have hne : l.dropWhile p ≠ [] := fun h => by simp [h] at hd
  have := List.head_dropWhile_not p hne
  rw [List.head?_eq_some_head hne, Option.some.injEq] at hd
  rw [hd] at this
  simpa using this

/-- What is left has no element `p` holds of at the back. -/
theorem trim_getLast {l : List β} : ∀ x ∈ (trim p l).getLast?, p x = false := by
  intro x hx
  have hne : trim p l ≠ [] := fun h => by simp [h] at hx
  rw [List.getLast?_eq_some_getLast hne, Option.mem_def, Option.some.injEq] at hx
  have : ¬ p ((trim p l).getLast hne) := List.rdropWhile_last_not p (l.dropWhile p) hne
  rw [hx] at this
  simpa using this

/-- Trimming twice trims once. -/
theorem trim_trim (l : List β) : trim p (trim p l) = trim p l :=
  trim_eq_self p (trim_head p) (trim_getLast p)

/-- A list is its trim with padding on either side. -/
theorem trim_decompose (l : List β) :
    ∃ u v, (∀ x ∈ u, p x) ∧ (∀ x ∈ v, p x) ∧ l = u ++ trim p l ++ v := by
  refine ⟨l.takeWhile p, (l.dropWhile p).rtakeWhile p, fun x hx => List.mem_takeWhile_imp hx,
    fun x hx => List.mem_rtakeWhile_imp hx, ?_⟩
  rw [trim, List.append_assoc, List.rdropWhile_append_rtakeWhile, List.takeWhile_append_dropWhile]

end trim

-- ============================ scan

section scan

variable {β γ ε : Type*}

/-- A validator's loop over `l`: each entry is checked on its own, then
refused when its key, if it has one, is already in `seen`, the refusal
naming the value `seen` holds for it; a new key is added. -/
def scan (check : β → Option ε) (key : β → Option (α × γ)) (dup : γ → β → ε) :
    List (α × γ) → List β → Option ε
  | _, [] => none
  | seen, b :: l =>
    match check b with
    | some e => some e
    | none =>
      match key b with
      | none => scan check key dup seen l
      | some kv =>
        match seen.lookup kv.1 with
        | some prev => some (dup prev b)
        | none => scan check key dup (kv :: seen) l

/-- The keys of the entries that have one, in order. -/
def keys (key : β → Option (α × γ)) (l : List β) : List α := (l.filterMap key).map Prod.fst

variable {check : β → Option ε} {key : β → Option (α × γ)} {dup : γ → β → ε}
  {seen : List (α × γ)} {b : β} {l : List β}

omit [DecidableEq α] in
@[simp] theorem keys_nil : keys key [] = [] := rfl

omit [DecidableEq α] in
theorem keys_cons_of_none (h : key b = none) : keys key (b :: l) = keys key l := by
  simp [keys, h]

omit [DecidableEq α] in
theorem keys_cons_of_some {kv : α × γ} (h : key b = some kv) : keys key (b :: l) = kv.1 :: keys key l := by
  simp [keys, h]

theorem scan_cons_of_check {e : ε} (hc : check b = some e) : scan check key dup seen (b :: l) = some e := by
  simp only [scan, hc]

theorem scan_cons_of_no_key (hc : check b = none) (hk : key b = none) :
    scan check key dup seen (b :: l) = scan check key dup seen l := by
  simp only [scan, hc, hk]

theorem scan_cons_of_seen {kv : α × γ} {prev : γ} (hc : check b = none) (hk : key b = some kv)
    (hl : seen.lookup kv.1 = some prev) : scan check key dup seen (b :: l) = some (dup prev b) := by
  simp only [scan, hc, hk, hl]

theorem scan_cons_of_new {kv : α × γ} (hc : check b = none) (hk : key b = some kv)
    (hl : seen.lookup kv.1 = none) :
    scan check key dup seen (b :: l) = scan check key dup (kv :: seen) l := by
  simp only [scan, hc, hk, hl]

theorem lookup_cons_eq_none {kv : α × γ} {k : α} :
    (kv :: seen).lookup k = none ↔ k ≠ kv.1 ∧ seen.lookup k = none := by
  rw [List.lookup_cons]
  by_cases hk : k = kv.1
  · subst hk
    simp
  · have hne : (k == kv.1) = false := beq_false_of_ne hk
    rw [hne]
    exact ⟨fun h => ⟨hk, h⟩, fun h => h.2⟩

/-- The scan passes exactly when every entry passes its check and the
keys are distinct and none of them was seen. -/
theorem scan_eq_none_iff :
    scan check key dup seen l = none ↔
      (∀ b ∈ l, check b = none) ∧ (keys key l).Nodup ∧ ∀ k ∈ keys key l, seen.lookup k = none := by
  induction l generalizing seen with
  | nil => simp [scan]
  | cons b l ih =>
    cases hc : check b with
    | some e => simp [scan_cons_of_check hc, hc]
    | none =>
      cases hk : key b with
      | none =>
        rw [scan_cons_of_no_key hc hk, ih, keys_cons_of_none hk]
        simp [hc]
      | some kv =>
        rw [keys_cons_of_some hk]
        cases hl : seen.lookup kv.1 with
        | some prev =>
          -- the key was seen: refused
          rw [scan_cons_of_seen hc hk hl]
          simp only [reduceCtorEq, false_iff, not_and]
          intro _ _ hnew
          exact absurd (hnew kv.1 List.mem_cons_self) (by rw [hl]; exact nofun)
        | none =>
          -- a new key joins the seen ones
          rw [scan_cons_of_new hc hk hl, ih]
          simp only [lookup_cons_eq_none, List.mem_cons, List.nodup_cons, forall_eq_or_imp, hc, hl,
            true_and]
          constructor
          · rintro ⟨hall, hnd, hnew⟩
            exact ⟨hall, ⟨fun h => (hnew _ h).1 rfl, hnd⟩, fun k hk => (hnew k hk).2⟩
          · rintro ⟨hall, ⟨hnot, hnd⟩, hnew⟩
            exact ⟨hall, hnd, fun k hk => ⟨fun h => hnot (h ▸ hk), hnew k hk⟩⟩

/-- A scan from nothing seen passes exactly when every entry passes its
check and the keys are distinct. -/
theorem scan_nil_eq_none_iff :
    scan check key dup [] l = none ↔ (∀ b ∈ l, check b = none) ∧ (keys key l).Nodup := by
  rw [scan_eq_none_iff]
  simp

/-- A refusal is an entry's: its check's, or the refusal of its key as
seen before. -/
theorem scan_eq_some {e : ε} (h : scan check key dup seen l = some e) :
    ∃ b ∈ l, check b = some e ∨ ∃ prev, e = dup prev b := by
  induction l generalizing seen with
  | nil => cases h
  | cons b l ih =>
    cases hc : check b with
    | some e' =>
      rw [scan_cons_of_check hc] at h
      exact ⟨b, List.mem_cons_self, .inl (hc.trans h)⟩
    | none =>
      -- an entry further on
      have later : ∀ {seen' : List (α × γ)}, scan check key dup seen' l = some e →
          ∃ b' ∈ b :: l, check b' = some e ∨ ∃ prev, e = dup prev b' := by
        intro seen' h'
        obtain ⟨b', hb', hr⟩ := ih h'
        exact ⟨b', List.mem_cons_of_mem b hb', hr⟩
      cases hk : key b with
      | none =>
        rw [scan_cons_of_no_key hc hk] at h
        exact later h
      | some kv =>
        cases hl : seen.lookup kv.1 with
        | some prev =>
          rw [scan_cons_of_seen hc hk hl, Option.some.injEq] at h
          exact ⟨b, List.mem_cons_self, .inr ⟨prev, h.symm⟩⟩
        | none =>
          rw [scan_cons_of_new hc hk hl] at h
          exact later h

end scan

end Text
