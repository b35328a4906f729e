import Mathlib.Data.List.Induction

/-!
# Steps that may fail

Two steps in a row succeed exactly if both do, and a fold of steps over a list succeeds exactly if
it does over all but the last member and the last step does. If the success of a step depends on
the member alone, the fold succeeds exactly if every member allows it. A traversal succeeds exactly
if its step does at every member, and gives the results in the order of the members. What can always
be read back from its written form shares that form with nothing else.
-/

namespace DnsHealth

variable {ε α β : Type}

/-- Two steps in a row succeed exactly if both do. -/
theorem bind_eq_ok_iff (x : Except ε α) (f : α → Except ε β) (b : β) :
    x >>= f = .ok b ↔ ∃ a, x = .ok a ∧ f a = .ok b := by
  cases x <;> simp [bind, Except.bind]

/-- Whether there is a result can be computed. -/
theorem exists_eq_ok_iff_isOk {x : Except ε α} : (∃ a, x = .ok a) ↔ x.isOk = true := by
  cases x <;> simp [Except.isOk, Except.toBool]

/-- A fold over one more member goes one step further. -/
theorem foldlM_append_singleton_eq_ok_iff (f : β → α → Except ε β) (xs : List α) (x : α)
    (start out : β) :
    (xs ++ [x]).foldlM f start = .ok out ↔
      ∃ middle, xs.foldlM f start = .ok middle ∧ f middle x = .ok out := by
  rw [List.foldlM_append, bind_eq_ok_iff]
  simp only [List.foldlM_cons, List.foldlM_nil, bind_pure]

/-- A fold whose steps succeed or fail by the member alone. -/
theorem exists_foldlM_eq_ok_iff {f : β → α → Except ε β} {allowed : α → Prop}
    (h : ∀ acc x, (∃ out, f acc x = .ok out) ↔ allowed x) (xs : List α) (start : β) :
    (∃ out, xs.foldlM f start = .ok out) ↔ ∀ x ∈ xs, allowed x := by
  induction xs using List.reverseRecOn with
  | nil => exact ⟨fun _ x hx => absurd hx List.not_mem_nil, fun _ => ⟨start, rfl⟩⟩
  | append_singleton xs x ih =>
    simp only [foldlM_append_singleton_eq_ok_iff, List.forall_mem_append, List.forall_mem_singleton]
    rw [← ih]
    constructor
    · rintro ⟨out, middle, hmiddle, hout⟩
      exact ⟨⟨middle, hmiddle⟩, (h middle x).mp ⟨out, hout⟩⟩
    · rintro ⟨⟨middle, hmiddle⟩, hx⟩
      obtain ⟨out, hout⟩ := (h middle x).mpr hx
      exact ⟨out, middle, hmiddle, hout⟩

/-- A traversal by a step that succeeds under a condition, and then with a known result. -/
theorem mapM_eq_ok_iff_map {f : α → Except ε β} {allowed : α → Prop} {result : α → β}
    (h : ∀ x y, f x = .ok y ↔ allowed x ∧ y = result x) {xs : List α} {ys : List β} :
    xs.mapM f = .ok ys ↔ (∀ x ∈ xs, allowed x) ∧ ys = xs.map result := by
  induction xs generalizing ys with
  | nil => simp [pure, Except.pure, eq_comm]
  | cons x xs ih =>
    simp only [List.mapM_cons, bind_eq_ok_iff, h, ih, pure, Except.pure, Except.ok.injEq,
      List.forall_mem_cons, List.map_cons]
    constructor
    · rintro ⟨y, ⟨hx, rfl⟩, rest, ⟨hxs, rfl⟩, rfl⟩
      exact ⟨⟨hx, hxs⟩, rfl⟩
    · rintro ⟨⟨hx, hxs⟩, rfl⟩
      exact ⟨_, ⟨hx, rfl⟩, _, ⟨hxs, rfl⟩, rfl⟩

/-- The same for steps that give no reason when they fail. -/
theorem mapM_eq_some_iff_map {f : α → Option β} {allowed : α → Prop} {result : α → β}
    (h : ∀ x y, f x = some y ↔ allowed x ∧ y = result x) {xs : List α} {ys : List β} :
    xs.mapM f = some ys ↔ (∀ x ∈ xs, allowed x) ∧ ys = xs.map result := by
  induction xs generalizing ys with
  | nil => simp [eq_comm]
  | cons x xs ih =>
    simp only [List.mapM_cons, Option.bind_eq_bind, Option.bind_eq_some_iff, h, ih, Option.pure_def,
      Option.some.injEq, List.forall_mem_cons, List.map_cons]
    constructor
    · rintro ⟨y, ⟨hx, rfl⟩, rest, ⟨hxs, rfl⟩, rfl⟩
      exact ⟨⟨hx, hxs⟩, rfl⟩
    · rintro ⟨⟨hx, hxs⟩, rfl⟩
      exact ⟨_, ⟨hx, rfl⟩, _, ⟨hxs, rfl⟩, rfl⟩

/-- A traversal succeeds exactly if its step does at every member. -/
theorem exists_mapM_eq_ok_iff {f : α → Except ε β} {xs : List α} :
    (∃ ys, xs.mapM f = .ok ys) ↔ ∀ x ∈ xs, ∃ y, f x = .ok y := by
  induction xs with
  | nil => simp [pure, Except.pure]
  | cons x xs ih =>
    simp only [List.mapM_cons, bind_eq_ok_iff, pure, Except.pure, Except.ok.injEq,
      List.forall_mem_cons, ← ih]
    constructor
    · rintro ⟨_, y, hy, ys, hys, -⟩
      exact ⟨⟨y, hy⟩, ys, hys⟩
    · rintro ⟨⟨y, hy⟩, ys, hys⟩
      exact ⟨_, y, hy, ys, hys, rfl⟩

/-- The results of a traversal are those of its step at the members. -/
theorem mem_of_mapM_eq_ok {f : α → Except ε β} {xs : List α} {ys : List β}
    (h : xs.mapM f = .ok ys) (z : β) : z ∈ ys ↔ ∃ x ∈ xs, f x = .ok z := by
  induction xs generalizing ys with
  | nil =>
    cases h
    simp
  | cons x xs ih =>
    simp only [List.mapM_cons, bind_eq_ok_iff, pure, Except.pure, Except.ok.injEq] at h
    obtain ⟨y, hy, rest, hrest, rfl⟩ := h
    rw [List.mem_cons, ih hrest]
    simp only [List.mem_cons, or_and_right, exists_or, exists_eq_left, hy, Except.ok.injEq]
    rw [eq_comm]

/-- What reads back from its written form is told by it. -/
theorem eq_iff_of_read {write : α → β} {read? : β → Option α} (h : ∀ x, read? (write x) = some x)
    {x y : α} : write x = write y ↔ x = y := by
  constructor
  · intro hsame
    have hx := h x
    rw [hsame, h y] at hx
    exact (Option.some.inj hx).symm
  · exact congrArg write

end DnsHealth
