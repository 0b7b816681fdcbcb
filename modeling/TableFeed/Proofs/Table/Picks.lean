import Mathlib
import TableFeed.Table.Position

/-!
# Items picked by positions

A round knows the rows it is given by their positions among other rows, which may in turn have been
picked by positions.  `Position.Picks positions xs ys` says that the list `ys` holds the items of
`xs` at the positions, in their order; `Position.Picks.trans` is what composes two such choices.
-/

namespace TableFeed.Position

variable {α : Type} {positions origin next : List Int} {xs ys zs : List α}

/-- Some items of a list, picked by their positions. -/
def Picks (positions : List Int) (xs ys : List α) : Prop := ys.map some = positions.map (item? xs)

/-- A position that counts from the start of a list with a given number of items. -/
def Within (count : Nat) (n : Int) : Prop := ∃ m < count, n = Int.ofNat m

lemma Within.exists_item {n : Int} (h : Within xs.length n) : ∃ x ∈ xs, item? xs n = some x := by
  obtain ⟨m, hm, rfl⟩ := h
  exact ⟨xs[m], List.getElem_mem hm, by simp [item?, List.getElem?_eq_getElem hm]⟩

lemma item?_inj {m n : Int} (hxs : xs.Nodup) (hm : Within xs.length m) (hn : Within xs.length n)
    (h : item? xs m = item? xs n) : m = n := by
  obtain ⟨m, hm, rfl⟩ := hm
  obtain ⟨n, -, rfl⟩ := hn
  rw [(List.getElem?_inj hm hxs).1 h]

lemma mem_of_item? {n : Int} {x : α} (h : item? xs n = some x) : x ∈ xs := by
  cases n with
  | ofNat n => exact List.mem_of_getElem? h
  | negSucc n => exact List.mem_reverse.1 (List.mem_of_getElem? h)

@[simp] lemma picks_nil : Picks [] xs ys ↔ ys = [] := by simp [Picks]

lemma picks_cons {n : Int} {rest : List Int} :
    Picks (n :: rest) xs ys ↔ ∃ y ys', ys = y :: ys' ∧ item? xs n = some y ∧ Picks rest xs ys' := by
  cases ys with
  | nil => simp [Picks]
  | cons y ys =>
      constructor
      · intro h
        rw [Picks, List.map_cons, List.map_cons, List.cons.injEq] at h
        exact ⟨y, ys, rfl, h.1.symm, h.2⟩
      · rintro ⟨y', ys', heq, hy, hys⟩
        obtain ⟨rfl, rfl⟩ := List.cons.inj heq
        rw [Picks, List.map_cons, List.map_cons, hy, hys]

/-- All positions, in order, pick the list itself. -/
lemma picks_range (xs : List α) : Picks ((List.range xs.length).map Int.ofNat) xs xs := by
  refine List.ext_getElem? fun n => ?_
  rcases lt_or_ge n xs.length with h | h
  · simp [h, item?]
  · simp [h]

/-- All positions ascend. -/
lemma pairwise_range (count : Nat) : ((List.range count).map Int.ofNat).Pairwise (· < ·) := by
  rw [List.pairwise_map]
  exact List.pairwise_lt_range.imp fun h => Int.ofNat_lt.2 h

lemma exists_picks_of_item? (h : ∀ n ∈ positions, ∃ x, item? xs n = some x) :
    ∃ ys, Picks positions xs ys := by
  induction positions with
  | nil => exact ⟨[], by simp⟩
  | cons n rest ih =>
      obtain ⟨x, hx⟩ := h n (by simp)
      obtain ⟨ys, hys⟩ := ih fun k hk => h k (by simp [hk])
      exact ⟨x :: ys, picks_cons.2 ⟨x, ys, rfl, hx, hys⟩⟩

/-- The items at positions of a list are there. -/
lemma exists_picks (h : ∀ n ∈ positions, Within xs.length n) : ∃ ys, Picks positions xs ys := by
  refine exists_picks_of_item? fun n hn => ?_
  obtain ⟨x, -, hx⟩ := (h n hn).exists_item
  exact ⟨x, hx⟩

namespace Picks

lemma length_eq (h : Picks positions xs ys) : ys.length = positions.length := by
  simpa using congrArg List.length h

lemma unique (h : Picks positions xs ys) (h' : Picks positions xs zs) : ys = zs :=
  List.map_injective_iff.2 (Option.some_injective α) (h.trans h'.symm)

lemma mem_iff (h : Picks positions xs ys) {y : α} : y ∈ ys ↔ ∃ n ∈ positions, item? xs n = some y := by
  rw [← List.mem_map, ← h, List.mem_map]
  simp

lemma subset (h : Picks positions xs ys) : ys ⊆ xs := by
  intro y hy
  obtain ⟨n, -, hn⟩ := h.mem_iff.1 hy
  exact mem_of_item? hn

/-- Distinct positions pick distinct items of a list without duplicates. -/
lemma nodup (h : Picks positions xs ys) (hpositions : positions.Nodup) (hxs : xs.Nodup)
    (hwithin : ∀ n ∈ positions, Within xs.length n) : ys.Nodup := by
  have hmap : (positions.map (item? xs)).Nodup :=
    hpositions.map_on fun m hm n hn heq => item?_inj hxs (hwithin m hm) (hwithin n hn) heq
  rw [← h] at hmap
  exact hmap.of_map some

/-- Where one list was picked from another, an item of it is one of the other. -/
lemma item?_eq (h : Picks origin xs ys) {k : Int} {n : Int} (hk : item? origin k = some n) :
    item? ys k = item? xs n := by
  have hget : ∀ m : Nat, ∀ {us : List Int} {vs : List α}, Picks us xs vs → us[m]? = some n →
      vs[m]? = item? xs n := by
    intro m us vs hpicks hm
    have hsome : (vs.map some)[m]? = (us.map (item? xs))[m]? := by rw [hpicks]
    rw [List.getElem?_map, List.getElem?_map, hm] at hsome
    rcases hv : vs[m]? with _ | v
    · simp [hv] at hsome
    · simpa [hv] using hsome
  cases k with
  | ofNat m => exact hget m h hk
  | negSucc m =>
      have hreverse : Picks origin.reverse xs ys.reverse := by
        rw [Picks, List.map_reverse, List.map_reverse, h]
      exact hget m hreverse hk

/-- What is picked from a list that was itself picked from a third one is picked from the third one
by the positions that are picked alike. -/
lemma trans (h : Picks origin xs ys) (hnext : Picks positions origin next)
    (hzs : Picks positions ys zs) : Picks next xs zs := by
  induction positions generalizing next zs with
  | nil =>
      rw [picks_nil] at hnext hzs
      subst hnext hzs
      simp
  | cons k rest ih =>
      obtain ⟨n, next', rfl, hk, hnext'⟩ := picks_cons.1 hnext
      obtain ⟨z, zs', rfl, hz, hzs'⟩ := picks_cons.1 hzs
      exact picks_cons.2 ⟨z, zs', rfl, by rw [← h.item?_eq hk, hz], ih hnext' hzs'⟩

/-- A choice among the positions picks the items of the same choice. -/
lemma filter (h : Picks positions xs ys) {q : Int → Bool} {q' : α → Bool}
    (hq : ∀ n ∈ positions, ∀ y, item? xs n = some y → q n = q' y) :
    Picks (positions.filter q) xs (ys.filter q') := by
  induction positions generalizing ys with
  | nil =>
      rw [picks_nil] at h
      subst h
      simp
  | cons n rest ih =>
      obtain ⟨y, ys', rfl, hy, hys'⟩ := picks_cons.1 h
      have hrest := ih hys' fun m hm => hq m (by simp [hm])
      have hn := hq n (by simp) y hy
      cases hqy : q' y with
      | true =>
          rw [List.filter_cons_of_pos (by rw [hn, hqy]), List.filter_cons_of_pos hqy]
          exact picks_cons.2 ⟨y, _, rfl, hy, hrest⟩
      | false =>
          rw [List.filter_cons_of_neg (by simp [hn, hqy]), List.filter_cons_of_neg (by simp [hqy])]
          exact hrest

/-- What is made of the positions and the items at them, made of the items alone. -/
lemma map_zip_eq {β γ : Type} (h : Picks positions xs ys) {f : Int → β} {g : α × β → γ} {g' : α → γ}
    (hg : ∀ n ∈ positions, ∀ y, item? xs n = some y → g (y, f n) = g' y) :
    (ys.zip (positions.map f)).map g = ys.map g' := by
  induction positions generalizing ys with
  | nil =>
      rw [picks_nil] at h
      subst h
      rfl
  | cons n rest ih =>
      obtain ⟨y, ys', rfl, hy, hys'⟩ := picks_cons.1 h
      rw [List.map_cons, List.zip_cons_cons, List.map_cons, List.map_cons, hg n (by simp) y hy,
        ih hys' fun m hm => hg m (by simp [hm])]

/-- Ascending positions pick ascending items of an ascending list. -/
lemma pairwise_lt (hnext : Picks positions origin next) (hpositions : positions.Pairwise (· < ·))
    (horigin : origin.Pairwise (· < ·)) (hwithin : ∀ n ∈ positions, Within origin.length n) :
    next.Pairwise (· < ·) := by
  have hmono : ∀ {m n a b : Int}, Within origin.length m → Within origin.length n → m < n →
      item? origin m = some a → item? origin n = some b → a < b := by
    rintro m n a b ⟨m, hm, rfl⟩ ⟨n, hn, rfl⟩ hlt ha hb
    obtain rfl : origin[m] = a := by simpa [item?, List.getElem?_eq_getElem hm] using ha
    obtain rfl : origin[n] = b := by simpa [item?, List.getElem?_eq_getElem hn] using hb
    exact List.pairwise_iff_getElem.1 horigin m n hm hn (by simpa using hlt)
  induction positions generalizing next with
  | nil =>
      rw [picks_nil] at hnext
      simp [hnext]
  | cons k rest ih =>
      obtain ⟨a, next', rfl, hk, hnext'⟩ := picks_cons.1 hnext
      rw [List.pairwise_cons] at hpositions ⊢
      refine ⟨fun b hb => ?_, ih hnext' hpositions.2 fun n hn => hwithin n (by simp [hn])⟩
      obtain ⟨n, hn, hnb⟩ := hnext'.mem_iff.1 hb
      exact hmono (hwithin k (by simp)) (hwithin n (by simp [hn])) (hpositions.1 n hn) hk hnb

end Picks

/-! ### What is left of a list -/

/-- The items of a list without those at some positions. -/
def without (xs : List α) (positions : List Int) : List α :=
  (xs.zipIdx.filter fun x => Int.ofNat x.2 ∉ positions).map Prod.fst

@[simp] lemma without_nil (xs : List α) : without xs [] = xs := by
  simp [without, List.zipIdx_map_fst]

lemma Picks.map {β : Type} (h : Picks positions xs ys) (f : α → β) :
    Picks positions (xs.map f) (ys.map f) := by
  have hitem : ∀ n, item? (xs.map f) n = (item? xs n).map f := by
    intro n
    cases n <;> simp [item?, ← List.map_reverse]
  rw [Picks, List.map_map, List.map_congr_left fun n _ => hitem n]
  simpa [Function.comp_def] using congrArg (List.map (Option.map f)) h

/-- The items at ascending positions, with what is left, are the items of the list. -/
lemma Picks.perm_without (h : Picks positions xs ys) (hascending : positions.Pairwise (· < ·))
    (hwithin : ∀ n ∈ positions, Within xs.length n) : (ys ++ without xs positions).Perm xs := by
  have hall : Picks ((List.range xs.length).map Int.ofNat) xs.zipIdx xs.zipIdx := by
    simpa using picks_range xs.zipIdx
  have hfilter : ((List.range xs.length).map Int.ofNat).filter (· ∈ positions) = positions := by
    refine List.Pairwise.eq_of_mem_iff ((pairwise_range _).filter _) hascending fun n => ?_
    simp only [List.mem_filter, List.mem_map, List.mem_range, decide_eq_true_eq, and_iff_right_iff_imp]
    intro hn
    obtain ⟨m, hm, rfl⟩ := hwithin n hn
    exact ⟨m, hm, rfl⟩
  -- the items at the positions are found among the items with their numbers
  have hzip : Picks positions xs.zipIdx (xs.zipIdx.filter fun x => Int.ofNat x.2 ∈ positions) := by
    nth_rewrite 1 [← hfilter]
    refine hall.filter fun n hn y hy => ?_
    obtain ⟨m, -, rfl⟩ := List.mem_map.1 hn
    rw [item?, List.getElem?_zipIdx] at hy
    obtain ⟨x, -, rfl⟩ := Option.map_eq_some_iff.1 hy
    simp
  have hys : ys = (xs.zipIdx.filter fun x => Int.ofNat x.2 ∈ positions).map Prod.fst := by
    have hmap := hzip.map Prod.fst
    rw [List.zipIdx_map_fst] at hmap
    exact h.unique hmap
  have hperm := List.filter_append_perm (fun x : α × Nat => decide (Int.ofNat x.2 ∈ positions))
    xs.zipIdx
  have hsplit := hperm.map Prod.fst
  rw [List.map_append, List.zipIdx_map_fst, ← hys] at hsplit
  simpa [without] using hsplit

/-! ### Lists that may be missing -/

section Rel

variable {us vs ws : Option (List α)}

lemma rel_picks_trans (h : Option.Rel (Picks origin) us vs) (hnext : Picks positions origin next)
    (h' : Option.Rel (Picks positions) vs ws) : Option.Rel (Picks next) us ws := by
  cases h with
  | none =>
      cases h'
      exact .none
  | some h =>
      cases h' with
      | some h' => exact .some (h.trans hnext h')

lemma bind_item?_eq (h : Option.Rel (Picks origin) us vs) {k n : Int}
    (hk : item? origin k = some n) : vs.bind (item? · k) = us.bind (item? · n) := by
  cases h with
  | none => rfl
  | some h => exact h.item?_eq hk

end Rel

end TableFeed.Position
