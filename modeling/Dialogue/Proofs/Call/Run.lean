import Dialogue.Flow.Template
import Dialogue.Proofs.Call.Carrying
import Dialogue.Proofs.Call.Handling

/-! Runs of a call in every order of events, of reports of the work under way, and of the moments at
which inputs are taken from the queue. -/

namespace Dialogue.Call

structure Stage where
  flow : Flow
  helpers : Helpers
  refuses : ViewOp → Bool := fun _ => false

structure Scene where
  tracker : Tracker := {}
  queue : List Input := []
  underway : List Work := []

structure Moment where
  stamp : Stamp
  before : Tracker
  input : Input
  after : Tracker
  started : List Work

inductive Work.Ends : Work → List Input → Prop
  | completion (epoch : Nat) (node : String) (clears isEnding : Bool) :
      Ends (.completion epoch node clears isEnding) [.completed epoch node clears]
  | classification (epoch ticket : Nat) (branch utterance : String) (candidates : List String)
      (intent : Option String) : Ends (.classification epoch ticket branch utterance candidates)
        [.classified epoch ticket branch intent]
  | lookup (epoch : Nat) (node : String) (spec : Lookup) (phone : Option String)
      (result : Lookup.Result) : Ends (.lookup epoch node spec phone) [.lookedUp epoch node result]
  | injection (handle context : String) : Ends (.injection handle context) []

namespace Stage

def initial : Stage where
  flow := Flow.initial
  helpers := ⟨false, false⟩

def apply (S : Stage) (stamp : Stamp) (t : Tracker) (i : Input) : Tracker × List Work :=
  carryOut stamp S.refuses (changes S.flow S.helpers t i) t

def moment (S : Stage) (stamp : Stamp) (t : Tracker) (i : Input) : Moment :=
  ⟨stamp, t, i, (S.apply stamp t i).1, (S.apply stamp t i).2⟩

def heard (S : Stage) (stamp : Stamp) : Tracker → List Event → List Moment
  | _, [] => []
  | t, e :: rest => S.moment stamp t (.event e) ::
      heard S stamp (S.apply stamp t (.event e)).1 rest

def hear (S : Stage) (stamp : Stamp) (σ : Scene) (es : List Event) : Scene :=
  es.foldl (fun σ e => ⟨(S.apply stamp σ.tracker (.event e)).1, σ.queue,
    σ.underway ++ (S.apply stamp σ.tracker (.event e)).2⟩) σ

end Stage

/-- The view shows all that the input brings. An input refused in part is abandoned there. -/
def Moment.isShown (S : Stage) (m : Moment) : Bool :=
  Call.isShown m.stamp S.refuses (changes S.flow S.helpers m.before m.input) m.before

inductive Step (S : Stage) : Scene → Option Moment → Scene → Prop
  | submit (σ : Scene) (e : Event) : Step S σ none { σ with queue := σ.queue ++ [.event e] }
  | finish {σ : Scene} {ws vs : List Work} {w : Work} {is : List Input} :
      σ.underway = ws ++ w :: vs → w.Ends is →
      Step S σ none { σ with queue := σ.queue ++ is, underway := ws ++ vs }
  | take {σ : Scene} {i : Input} {rest : List Input} (stamp : Stamp) : σ.queue = i :: rest →
      Step S σ (some (S.moment stamp σ.tracker i))
        ⟨(S.apply stamp σ.tracker i).1, rest, σ.underway ++ (S.apply stamp σ.tracker i).2⟩

inductive Run (S : Stage) : Scene → List Moment → Scene → Prop
  | nil (σ : Scene) : Run S σ [] σ
  | snoc {σ τ υ : Scene} {ms : List Moment} {m : Option Moment} :
      Run S σ ms τ → Step S τ m υ → Run S σ (ms ++ m.toList) υ

def Reachable (S : Stage) (σ : Scene) : Prop := ∃ ms, Run S {} ms σ

variable {S : Stage} {σ τ υ : Scene} {m : Moment} {ms ns : List Moment} {stamp : Stamp}
  {t : Tracker} {i : Input} {w : Work}

@[simp] lemma Stage.moment_input : (S.moment stamp t i).input = i := rfl
@[simp] lemma Stage.moment_before : (S.moment stamp t i).before = t := rfl

lemma Stage.apply_shown (shown : (S.moment stamp t i).isShown S = true) :
    S.apply stamp t i = (follow stamp (changes S.flow S.helpers t i) t,
      (changes S.flow S.helpers t i).filterMap Change.work?) := carryOut_shown shown

lemma Step.moment_eq (h : Step S σ (some m) τ) :
    m = S.moment m.stamp σ.tracker m.input ∧ τ.tracker = m.after := by
  cases h
  exact ⟨rfl, rfl⟩

namespace Run

lemma single {m : Option Moment} (h : Step S σ m τ) : Run S σ m.toList τ := .snoc (.nil σ) h

lemma trans (h : Run S σ ms τ) (h' : Run S τ ns υ) : Run S σ (ms ++ ns) υ := by
  induction h' with
  | nil => simpa using h
  | snoc _ hs ih => simpa using Run.snoc ih hs

lemma cons {m : Option Moment} (h : Step S σ m τ) (h' : Run S τ ns υ) :
    Run S σ (m.toList ++ ns) υ := (single h).trans h'

lemma split {before later : List Moment} (h : Run S σ (before ++ m :: later) τ) :
    ∃ α β, Run S σ before α ∧ Step S α (some m) β ∧ Run S β later τ := by
  generalize hms : before ++ m :: later = ms at h
  induction h generalizing later with
  | nil => simp at hms
  | @snoc α β ms n h hs ih =>
    cases n with
    | none =>
      obtain ⟨γ, δ, h₁, h₂, h₃⟩ := ih (by simpa using hms)
      exact ⟨γ, δ, h₁, h₂, by simpa using h₃.snoc hs⟩
    | some n =>
      rcases List.eq_nil_or_concat later with rfl | ⟨rest, k, rfl⟩
      · obtain ⟨rfl, rfl⟩ : before = ms ∧ m = n := by simpa using hms
        exact ⟨α, β, h, hs, .nil β⟩
      · have hlast : (before ++ m :: rest) ++ [k] = ms ++ [n] := by simpa using hms
        obtain ⟨hrest, rfl⟩ := List.append_singleton_inj.mp hlast
        obtain ⟨γ, δ, h₁, h₂, h₃⟩ := ih hrest
        exact ⟨γ, δ, h₁, h₂, by simpa using h₃.snoc hs⟩

lemma invariant {P : Scene → Prop} (h : Run S σ ms τ) (hσ : P σ)
    (step : ∀ α m β, P α → Step S α m β → P β) : P τ := by
  induction h with
  | nil => exact hσ
  | snoc _ hs ih => exact step _ _ _ ih hs

lemma tracker_invariant {P : Tracker → Prop} (h : Run S σ ms τ) (hσ : P σ.tracker)
    (step : ∀ stamp t i, P t → P (S.apply stamp t i).1) : P τ.tracker := by
  refine h.invariant (P := fun σ => P σ.tracker) hσ ?_
  intro α m β hα hs
  cases hs with
  | submit | finish => exact hα
  | take stamp => exact step _ _ _ hα

end Run

lemma Run.hear (h : σ.queue = []) (es : List Event) :
    Run S σ (S.heard stamp σ.tracker es) (S.hear stamp σ es) := by
  induction es generalizing σ with
  | nil => exact .nil σ
  | cons e rest ih =>
    obtain ⟨t, queue, ws⟩ := σ
    obtain rfl : queue = [] := h
    have submitted : Step S ⟨t, [], ws⟩ none ⟨t, [.event e], ws⟩ := .submit ⟨t, [], ws⟩ e
    have taken : Step S ⟨t, [.event e], ws⟩ (some (S.moment stamp t (.event e)))
        ⟨(S.apply stamp t (.event e)).1, [], ws ++ (S.apply stamp t (.event e)).2⟩ :=
      .take stamp rfl
    exact .cons submitted (.cons taken (ih rfl))

lemma Stage.input_of_heard {es : List Event} (h : m ∈ S.heard stamp t es) :
    ∃ e ∈ es, m.input = .event e := by
  induction es generalizing t with
  | nil => simp [Stage.heard] at h
  | cons e rest ih =>
    rcases List.mem_cons.mp h with rfl | h
    · exact ⟨e, by simp, rfl⟩
    · obtain ⟨f, hf, hm⟩ := ih h
      exact ⟨f, by simp [hf], hm⟩

lemma Moment.isShown_of_accepts (h : ∀ op, S.refuses op = false) : m.isShown S = true := by
  refine isShown_of_unrefused fun c _ s => ?_
  cases c.op? s <;> simp [h]

lemma Reachable.step {m : Option Moment} (h : Reachable S σ) (hs : Step S σ m τ) :
    Reachable S τ := h.imp' (· ++ m.toList) fun _ hr => hr.snoc hs

lemma Reachable.run (h : Reachable S σ) (hr : Run S σ ms τ) : Reachable S τ :=
  h.imp' (· ++ ms) fun _ hr' => hr'.trans hr

end Dialogue.Call
