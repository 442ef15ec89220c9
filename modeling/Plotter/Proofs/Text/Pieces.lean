import Mathlib.Data.List.Basic
import Plotter.Text

namespace Plotter.Text

variable {c : Char} {s t : Text}

theorem not_mem_of_mem_splitOn (h : s ∈ t.splitOn c) : c ∉ s := by
  induction t generalizing s with
  | nil =>
      rw [List.splitOn_nil, List.mem_singleton] at h
      simp [h]
  | cons d t ih =>
      rw [List.splitOn_cons_eq_if_modifyHead] at h
      split at h
      · rcases List.mem_cons.mp h with rfl | h
        · simp
        · exact ih h
      next hd =>
        obtain ⟨p, ps, hp⟩ := List.exists_cons_of_ne_nil (List.splitOn_ne_nil c t)
        rw [hp, List.modifyHead_cons] at h
        rcases List.mem_cons.mp h with rfl | h
        · have hc : c ∉ p := ih (hp ▸ List.mem_cons_self)
          have hdc : c ≠ d := fun he => hd (by simp [he])
          simp [hc, hdc]
        · exact ih (hp ▸ List.mem_cons_of_mem _ h)

@[simp] theorem length_splitOn (c : Char) (t : Text) : (t.splitOn c).length = t.count c + 1 := by
  induction t with
  | nil => simp
  | cons d t ih =>
      rw [List.splitOn_cons_eq_if_modifyHead, List.count_cons]
      split <;> simp [ih]

@[simp] theorem join_splitOn (c : Char) (t : Text) : join c (t.splitOn c) = t := List.intercalate_splitOn c

theorem splitOn_join {ts : List Text} (hc : ∀ t ∈ ts, c ∉ t) (hts : ts ≠ []) : (join c ts).splitOn c = ts :=
  List.splitOn_intercalate c hc hts

@[simp] theorem join_singleton (c : Char) (t : Text) : join c [t] = t := by simp [join]

@[simp] theorem join_cons_cons (c : Char) (s t : Text) (ts : List Text) :
    join c (s :: t :: ts) = s ++ c :: join c (t :: ts) := by
  simp [join, List.intercalate, List.intersperse]

theorem append_cons_inj {u v : Text} (hs : c ∉ s) (ht : c ∉ t) (h : s ++ c :: u = t ++ c :: v) : s = t ∧ u = v := by
  have hpieces : s :: u.splitOn c = t :: v.splitOn c := by
    rw [← List.splitOn_append_cons_self_of_not_mem hs, h, List.splitOn_append_cons_self_of_not_mem ht]
  obtain ⟨hst, huv⟩ := List.cons.inj hpieces
  exact ⟨hst, by rw [← join_splitOn c u, huv, join_splitOn]⟩

theorem mem_join {ts : List Text} {d : Char} (h : d ∈ join c ts) : d = c ∨ ∃ t ∈ ts, d ∈ t := by
  induction ts with
  | nil => simp [join] at h
  | cons t ts ih =>
      cases ts with
      | nil => exact .inr ⟨t, List.mem_cons_self, by simpa using h⟩
      | cons u us =>
          rw [join_cons_cons, List.mem_append, List.mem_cons] at h
          obtain h | h | h := h
          · exact .inr ⟨t, List.mem_cons_self, h⟩
          · exact .inl h
          · obtain h | ⟨v, hv, hd⟩ := ih h
            · exact .inl h
            · exact .inr ⟨v, List.mem_cons_of_mem _ hv, hd⟩

theorem flatMap_line (ts : List Text) : ts.flatMap line = join '\n' (ts ++ [[]]) := by
  induction ts with
  | nil => rfl
  | cons t ts ih =>
      obtain ⟨u, us, hu⟩ := List.exists_cons_of_ne_nil (List.append_ne_nil_of_right_ne_nil ts (List.cons_ne_nil [] []))
      rw [List.flatMap_cons, ih, List.cons_append, hu]
      simp [line]

theorem splitOn_flatMap_line {ts : List Text} (h : ∀ t ∈ ts, '\n' ∉ t) :
    (ts.flatMap line).splitOn '\n' = ts ++ [[]] := by
  have hpieces : ∀ t ∈ ts ++ [[]], '\n' ∉ t := List.forall_mem_append.mpr ⟨h, by simp⟩
  rw [flatMap_line, splitOn_join hpieces (by simp)]

theorem head?_join (ht : t ≠ []) (ts : List Text) : (join c (t :: ts)).head? = t.head? := by
  obtain ⟨d, t, rfl⟩ := List.exists_cons_of_ne_nil ht
  cases ts with
  | nil => simp
  | cons u us => simp

theorem join_ne_nil (ht : t ≠ []) (ts : List Text) : join c (t :: ts) ≠ [] := by
  intro hj
  have hh := head?_join (c := c) ht ts
  rw [hj, List.head?_nil, eq_comm, List.head?_eq_none_iff] at hh
  exact ht hh

theorem join_cons (c : Char) (t : Text) (ts : List Text) : join c (t :: ts) = t ++ ts.flatMap (c :: ·) := by
  induction ts generalizing t with
  | nil => simp
  | cons u us ih => simp [ih]

theorem line_join {ts : List Text} (hts : ts ≠ []) : line (join '\n' ts) = ts.flatMap line := by
  obtain ⟨t, ts, rfl⟩ := List.exists_cons_of_ne_nil hts
  rw [flatMap_line, List.cons_append, join_cons, join_cons, List.flatMap_append, line, List.append_assoc]
  rfl

theorem flatMap_cons_injective {α : Type} {f : α → Text} (hf : ∀ a b u v, f a ++ u = f b ++ v → a = b ∧ u = v) :
    Function.Injective fun as : List α => as.flatMap fun a => c :: f a := by
  intro as bs h
  induction as generalizing bs with
  | nil =>
      cases bs with
      | nil => rfl
      | cons b bs => cases h
  | cons a as ih =>
      cases bs with
      | nil => cases h
      | cons b bs =>
          obtain ⟨rfl, hrest⟩ := hf a b _ _ (List.cons.inj h).2
          rw [ih hrest]

/-- Where each text tells what comes after it, a join of such texts tells all of them. -/
theorem join_map_injective {α : Type} {f : α → Text} (hf : ∀ a b u v, f a ++ u = f b ++ v → a = b ∧ u = v)
    (hne : ∀ a, f a ≠ []) : Function.Injective fun as : List α => join c (as.map f) := by
  intro as bs h
  cases as with
  | nil =>
      cases bs with
      | nil => rfl
      | cons b bs => exact absurd h.symm (join_ne_nil (hne b) _)
  | cons a as =>
      cases bs with
      | nil => exact absurd h (join_ne_nil (hne a) _)
      | cons b bs =>
          have hparts : f a ++ (as.flatMap fun a => c :: f a) = f b ++ bs.flatMap fun b => c :: f b := by
            simpa only [List.map_cons, join_cons, List.flatMap_map] using h
          obtain ⟨rfl, hrest⟩ := hf a b _ _ hparts
          rw [flatMap_cons_injective hf hrest]

theorem mem_of_getLast?_join {ts : List Text} {d : Char} (h : ∀ t ∈ ts, t ≠ [])
    (hd : d ∈ (join c ts).getLast?) : ∃ t ∈ ts, d ∈ t := by
  induction ts with
  | nil => simp [join] at hd
  | cons t ts ih =>
      cases ts with
      | nil => exact ⟨t, List.mem_cons_self, List.mem_of_mem_getLast? (by simpa using hd)⟩
      | cons u us =>
          have hne : join c (u :: us) ≠ [] := join_ne_nil (h u (by simp)) us
          rw [join_cons_cons, List.getLast?_append_cons, List.getLast?_cons_of_ne_nil hne] at hd
          obtain ⟨v, hv, hdv⟩ := ih (fun t ht => h t (List.mem_cons_of_mem _ ht)) hd
          exact ⟨v, List.mem_cons_of_mem _ hv, hdv⟩

end Plotter.Text
