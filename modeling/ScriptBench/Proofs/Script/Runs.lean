import ScriptBench.Proofs.Script.Weight

/-!
Programs and the machines behind them.

1. A body weighs less than the turns that `Program.enough` allows (`weight_start`), so its program
   is, at every point, what some machine does that the body's machine comes to (`stands_of_makes`).
2. Its end is a machine that rests, not one whose turns ran out (`rests_of_makes`).
-/
namespace ScriptBench

/-- What a program has called on the way to what is left of it. -/
inductive Program.Makes (p : Program) : List (String × String) → Program → Prop where
  | start : Makes p [] p
  | call {calls : List (String × String)} {name args : String} {next : Answer → Program}
    (h : Makes p calls (.call name args next)) (a : Answer) :
    Makes p (calls ++ [(name, args)]) (next a)
  | interrupt {calls : List (String × String)} {q : Program} (h : Makes p calls (.spin q)) :
    Makes p calls q

namespace Machine

/-- The machines that a machine comes to, whatever the host answers and whenever it is
interrupted. -/
inductive Comes (m : Machine) : Machine → Prop where
  | refl : Comes m m
  | next {m₁ m₂ : Machine} (h : Comes m m₁) (hturn : m₁.turn = .next m₂) : Comes m m₂
  | answer {m₁ m₂ : Machine} {r : HostRequest} (h : Comes m m₁) (hturn : m₁.turn = .ask r m₂)
    (a : Answer) :
    Comes m (m₂.answer a)
  | interrupt {m₁ m₂ : Machine} (h : Comes m m₁) (hturn : m₁.turn = .spin m₂) : Comes m m₂

theorem Comes.trans {m m₁ m₂ : Machine} (h : m.Comes m₁) (h' : m₁.Comes m₂) : m.Comes m₂ := by
  induction h' with
  | refl => exact h
  | next _ hturn ih => exact ih.next hturn
  | answer _ hturn a ih => exact ih.answer hturn a
  | interrupt _ hturn ih => exact ih.interrupt hturn

theorem answer_weight (m : Machine) (a : Answer) :
    (m.answer a).weight = m.weight ∧ (m.Tame → (m.answer a).Tame) := by
  unfold answer
  split
  · rename_i frames hcontrol
    cases a <;> exact ⟨by simp only [weight, hcontrol]; rfl, fun hm => ⟨hm.promises, hm.jobs⟩⟩
  · exact ⟨rfl, id⟩

/-- A program is what a machine does that another one has come to, with turns enough left. -/
structure Stands (scope : String) (m : Machine) (p : Program) (fuel : Nat) (m' : Machine) :
    Prop where
  comes : m.Comes m'
  tame : m'.Tame
  enough : m'.weight < fuel
  eq : p = program scope fuel m'

variable {scope : String} {m m' : Machine} {p : Program} {fuel : Nat}

/-- With turns enough left a machine turns until it does something that shows. -/
theorem Stands.shows (h : Stands scope m p fuel m') :
    ∃ fuel' m'', Stands scope m p (fuel' + 1) m'' ∧ ∀ n, m''.turn ≠ .next n := by
  induction fuel generalizing m' with
  | zero => exact absurd h.enough (Nat.not_lt_zero _)
  | succ fuel ih =>
    have hbelow := turn_below h.tame
    cases hturn : m'.turn with
    | next n =>
      rw [hturn] at hbelow
      have heq : p = program scope fuel n := by
        rw [h.eq, program, hturn]
      have henough : n.weight < fuel := by
        have := hbelow.2
        have := h.enough
        omega
      exact ih ⟨h.comes.next hturn, hbelow.1, henough, heq⟩
    | ask r n => exact ⟨fuel, m', h, fun n' h' => by rw [hturn] at h'; cases h'⟩
    | halt => exact ⟨fuel, m', h, fun n' h' => by rw [hturn] at h'; cases h'⟩
    | spin n => exact ⟨fuel, m', h, fun n' h' => by rw [hturn] at h'; cases h'⟩

/-- The end of a program is a machine that rests. -/
theorem Stands.rests {outcome : Outcome} (h : Stands scope m (.finish outcome) fuel m') :
    ∃ m'', m.Comes m'' ∧ m''.turn = .halt ∧ outcome = m''.outcome scope := by
  obtain ⟨fuel', m'', hshows, hnot⟩ := h.shows
  have heq := hshows.eq
  rw [program] at heq
  cases hturn : m''.turn with
  | next n => exact absurd hturn (hnot n)
  | ask r n => rw [hturn] at heq; cases heq
  | halt =>
    rw [hturn] at heq
    cases heq
    exact ⟨m'', hshows.comes, hturn, rfl⟩
  | spin n => rw [hturn] at heq; cases heq

theorem Stands.called {name args : String} {next : Answer → Program}
    (h : Stands scope m (.call name args next) fuel m') (a : Answer) :
    ∃ fuel' m'', Stands scope m (next a) fuel' m'' := by
  obtain ⟨fuel', m'', hshows, hnot⟩ := h.shows
  have heq := hshows.eq
  have hbelow := turn_below hshows.tame
  have henough := hshows.enough
  rw [program] at heq
  cases hturn : m''.turn with
  | next n => exact absurd hturn (hnot n)
  | halt => rw [hturn] at heq; cases heq
  | spin n => rw [hturn] at heq; cases heq
  | ask r n =>
    rw [hturn] at heq hbelow
    obtain ⟨hweight, htame⟩ := answer_weight n a
    have hlight := hbelow.2
    cases heq
    exact ⟨fuel', n.answer a, hshows.comes.answer hturn a, htame hbelow.1, by omega, rfl⟩

theorem Stands.interrupted {q : Program} (h : Stands scope m (.spin q) fuel m') :
    ∃ fuel' m'', Stands scope m q fuel' m'' := by
  obtain ⟨fuel', m'', hshows, hnot⟩ := h.shows
  have heq := hshows.eq
  have hbelow := turn_below hshows.tame
  have henough := hshows.enough
  rw [program] at heq
  cases hturn : m''.turn with
  | next n => exact absurd hturn (hnot n)
  | halt => rw [hturn] at heq; cases heq
  | ask r n => rw [hturn] at heq; cases heq
  | spin n =>
    rw [hturn] at heq hbelow
    have hlight := hbelow.2
    cases heq
    exact ⟨fuel', n, hshows.comes.interrupt hturn, hbelow.1, by omega, rfl⟩

theorem weight_start (memoryLimit : Nat) (steps : List Step) :
    (start memoryLimit steps).Tame ∧ (start memoryLimit steps).weight < Program.enough steps := by
  refine ⟨⟨fun outcome h => ?_, fun handler outcome h => by cases h⟩, ?_⟩
  · cases List.mem_singleton.mp h
  · simp only [weight, load, start, List.map_cons, List.map_nil, List.sum_cons, List.sum_nil,
      PromiseState.weight, Control.weight, framesWeight_cons, framesWeight_nil, Frame.weight,
      Program.enough]
    omega

theorem stands_of_makes {memoryLimit : Nat} {steps : List Step} {calls : List (String × String)}
    (h : (program scope (Program.enough steps) (start memoryLimit steps)).Makes calls p) :
    ∃ fuel m', Stands scope (start memoryLimit steps) p fuel m' := by
  induction h with
  | start =>
    obtain ⟨htame, hweight⟩ := weight_start memoryLimit steps
    exact ⟨_, _, .refl, htame, hweight, rfl⟩
  | call _ a ih =>
    obtain ⟨fuel, m', h⟩ := ih
    exact h.called a
  | interrupt _ ih =>
    obtain ⟨fuel, m', h⟩ := ih
    exact h.interrupted

/-- When the program of a body has come to its end, the body's machine has come to rest. -/
theorem rests_of_makes {memoryLimit : Nat} {steps : List Step} {calls : List (String × String)}
    {outcome : Outcome}
    (h : (program scope (Program.enough steps) (start memoryLimit steps)).Makes calls
      (.finish outcome)) :
    ∃ m, (start memoryLimit steps).Comes m ∧ m.turn = .halt ∧ outcome = m.outcome scope := by
  obtain ⟨fuel, m', h⟩ := stands_of_makes h
  exact h.rests

end Machine

end ScriptBench
