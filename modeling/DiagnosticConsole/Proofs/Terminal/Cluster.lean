import DiagnosticConsole.Terminal.Width

/-!
# Clusters read from left to right

`clusters` goes over a text from its end, but what a reader sees grows at the
end: some clusters are over, and the last of them may still go on. A `Reading` is
just that, and one more character is one step: it goes on with the last cluster or
begins another. Before the first character there is an empty cluster that nothing
goes on with, as if behind a control; it takes no cell, so the cells of a text can
be followed character by character (`clusterSum_eq`, `read_concat`).

Of the machine itself only a few facts are needed. A control ends whatever
stands before it, nothing but a mark goes on after a plain character, and the two
states that matter later tell what the last character was.
-/

namespace DiagnosticConsole.Terminal

namespace ClusterState

@[simp] theorem next_control_fst (s : ClusterState) :
    (s.next .control).1 = true := by
  cases s <;> rfl

/-- After a control a cluster ends wherever it can, unless the control stood
behind a mark that joins what comes after it. -/
theorem next_control_snd (s : ClusterState) :
    (s.next .control).2 = if s = afterPrepended then plain else afterControl := by
  cases s <;> rfl

@[simp] theorem next_other_snd (s : ClusterState) : (s.next .other).2 = plain := by
  cases s <;> rfl

theorem next_plain_fst (b : BreakClass) : (next plain b).1 = !joins b := rfl

theorem next_eq_afterPrepended_iff (s : ClusterState) (b : BreakClass) :
    (s.next b).2 = afterPrepended ↔ b = .prepended := by
  cases s <;> cases b <;> decide

end ClusterState

/-- The clusters of a text up to some place: those that are over, the last one as
far as it goes, and the state of the machine. -/
structure Reading where
  finished : List Text
  current : Text
  state : ClusterState

namespace Reading

/-- Before the first character. -/
def blank : Reading := ⟨[], [], .afterControl⟩

/-- One more character. -/
def step (r : Reading) (c : Char) : Reading :=
  let (breaks, state) := r.state.next (BreakClass.of c)
  if breaks then ⟨r.finished ++ [r.current], [c], state⟩
  else ⟨r.finished, r.current ++ [c], state⟩

/-- All characters of a text. -/
def read (t : Text) : Reading := t.foldl step blank

/-- The clusters so far. -/
def clusters (r : Reading) : List Text := r.finished ++ [r.current]

/-- The cells of the clusters so far. -/
def cells (r : Reading) : Nat :=
  (r.clusters.map clusterCells).foldr (· + ·) 0

variable {r : Reading} {c : Char}

theorem step_of_break (h : (r.state.next (BreakClass.of c)).1 = true) :
    r.step c
      = ⟨r.finished ++ [r.current], [c], (r.state.next (BreakClass.of c)).2⟩ := by
  simp [step, h]

theorem step_of_join (h : (r.state.next (BreakClass.of c)).1 = false) :
    r.step c
      = ⟨r.finished, r.current ++ [c], (r.state.next (BreakClass.of c)).2⟩ := by
  simp [step, h]

theorem step_state (r : Reading) (c : Char) :
    (r.step c).state = (r.state.next (BreakClass.of c)).2 := by
  rw [step]
  simp only []
  split <;> rfl

theorem foldr_add_append (l l' : List Nat) :
    (l ++ l').foldr (· + ·) 0 = l.foldr (· + ·) 0 + l'.foldr (· + ·) 0 := by
  calc (l ++ l').foldr (· + ·) 0
      = l.foldr (· + ·) (0 + l'.foldr (· + ·) 0) := by
        rw [List.foldr_append, Nat.zero_add]
    _ = l.foldr (· + ·) 0 + l'.foldr (· + ·) 0 := List.foldr_assoc

theorem cells_eq (r : Reading) :
    r.cells
      = (r.finished.map clusterCells).foldr (· + ·) 0 + clusterCells r.current := by
  rw [cells, clusters, List.map_append, foldr_add_append]
  rfl

theorem clusters_step_of_break (h : (r.state.next (BreakClass.of c)).1 = true) :
    (r.step c).clusters = r.clusters ++ [[c]] := by
  rw [step_of_break h]
  rfl

theorem cells_step_of_break (h : (r.state.next (BreakClass.of c)).1 = true) :
    (r.step c).cells = r.cells + clusterCells [c] := by
  rw [cells, clusters_step_of_break h, List.map_append, foldr_add_append]
  rfl

theorem cells_step_of_join (h : (r.state.next (BreakClass.of c)).1 = false) :
    (r.step c).cells + clusterCells r.current
      = r.cells + clusterCells (r.current ++ [c]) := by
  rw [step_of_join h, cells_eq, cells_eq]
  simp only []
  omega

/-- Reading on from anywhere gives the clusters that the machine finds there. -/
theorem clusters_foldl_step (r : Reading) (t : Text) :
    (t.foldl step r).clusters
      = r.finished
        ++ (r.current ++ (clustersFrom r.state t).1)
          :: (clustersFrom r.state t).2 := by
  induction t generalizing r with
  | nil => simp [clusters, clustersFrom]
  | cons c t ih =>
      rw [List.foldl_cons, ih, clustersFrom]
      simp only []
      cases h : (r.state.next (BreakClass.of c)).1 with
      | true =>
          rw [step_of_break h]
          simp
      | false =>
          rw [step_of_join h]
          simp

theorem clusters_read (t : Text) :
    (read t).clusters = [] :: Terminal.clusters t := by
  rw [read, clusters_foldl_step]
  cases t with
  | nil => rfl
  | cons c t => rfl

theorem clusterSum_eq (t : Text) : clusterSum t = (read t).cells := by
  rw [cells, clusters_read, List.map_cons, List.foldr_cons, clusterSum]
  exact (Nat.zero_add _).symm

theorem read_concat (t : Text) (c : Char) :
    read (t ++ [c]) = (read t).step c := by
  rw [read, List.foldl_append]
  rfl

end Reading

end DiagnosticConsole.Terminal
