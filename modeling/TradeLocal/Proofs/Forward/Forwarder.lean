import TradeLocal.Proofs.Forward.Outcome

/-!
# A forwarder in use

One forwarder runs queries one after the other, on one output and with one launcher, whose answer to
a call depends on how many came before.  Nothing of a run is left to the next one: what a query
gives, echoes and has run is what a forwarder gives that has run nothing else.
-/

namespace TradeLocal

open Event Forward

/-- The settings of a forwarder, what its launcher answers to the calls made of it, and what has
been echoed and called for so far. -/
structure Forwarder where
  settings : Settings
  answers : Nat → Launch
  out : Bytes := []
  calls : List (List Bytes) := []

namespace Forwarder

def due (forwarder : Forwarder) : Launch :=
  forwarder.answers forwarder.calls.length

def perform (forwarder : Forwarder) : Event → Forwarder
  | .echo text => { forwarder with out := forwarder.out ++ text }
  | .launch words => { forwarder with calls := forwarder.calls ++ [words] }
  | .notice _ | .setThreshold _ | .complain _ | .childOutput _ _ => forwarder

/-- Run a query.  There is no result if this ends the process. -/
def run (forwarder : Forwarder) (query : Query) : Option (Except ForwardError Int) × Forwarder :=
  let run := runQuery forwarder.settings (fun _ => forwarder.due) query
  (run.result, run.events.foldl perform forwarder)

def runAll (forwarder : Forwarder) :
    List Query → List (Option (Except ForwardError Int)) × Forwarder
  | [] => ([], forwarder)
  | query :: rest =>
      let (result, after) := forwarder.run query
      if result.isNone then ([result], after)
      else (result :: (after.runAll rest).1, (after.runAll rest).2)

/-- A forwarder that has run nothing, and that gets one answer only. -/
def alone (settings : Settings) (answer : Launch) : Forwarder where
  settings := settings
  answers := fun _ => answer

def echoLine (settings : Settings) (query : Query) : Bytes :=
  ascii "$ " ++ Command.render ⟨settings.program, query⟩ ++ [Byte.newline]

/-- The forwarder with one echo and one call more for each of the queries. -/
def having (forwarder : Forwarder) (queries : List Query) : Forwarder :=
  { forwarder with
    out := forwarder.out ++ queries.flatMap (echoLine forwarder.settings)
    calls := forwarder.calls ++ queries.map (launched forwarder.settings) }

variable {forwarder : Forwarder} {settings : Settings} {queries : List Query}

@[simp]
theorem having_nil (forwarder : Forwarder) : forwarder.having [] = forwarder := by
  simp [having]

theorem having_having (forwarder : Forwarder) (queries later : List Query) :
    (forwarder.having queries).having later = forwarder.having (queries ++ later) := by
  simp [having]

theorem foldl_perform (events : List Event) (forwarder : Forwarder) :
    events.foldl perform forwarder =
      { forwarder with
        out := forwarder.out ++ echoed events
        calls := forwarder.calls ++ launches events } := by
  induction events generalizing forwarder with
  | nil => simp [echoed, launches]
  | cons event rest ih =>
      rw [List.foldl_cons, ih]
      cases event <;> simp [perform, echoed, launches]

theorem run_eq (query : Query)
    (meaningful : forwarder.settings.mode = .direct ∨ forwarder.settings.mode = .shell) :
    forwarder.run query =
      ((outcome forwarder.settings.program forwarder.due.result).result,
        forwarder.having [query]) := by
  obtain ⟨back, quiet, ran⟩ := runQuery_eq (fun _ => forwarder.due) query meaningful
  obtain ⟨noEcho, -, noLaunch⟩ := quiet
  unfold run
  simp only [ran, foldl_perform]
  simp [echoed, launches, noEcho, noLaunch, having, echoLine]

theorem run_alone (query : Query) (answer : Launch)
    (meaningful : settings.mode = .direct ∨ settings.mode = .shell) :
    (alone settings answer).run query =
      ((outcome settings.program answer.result).result, (alone settings answer).having [query]) :=
  run_eq query meaningful

theorem runAll_cons {query : Query} {rest : List Query} {result : Except ForwardError Int}
    {after : Forwarder} (ran : forwarder.run query = (some result, after)) :
    forwarder.runAll (query :: rest) =
      (some result :: (after.runAll rest).1, (after.runAll rest).2) := by
  rw [runAll, ran]
  rfl

/-- The launcher gets one call for each query, so its answers do not get out of step. -/
theorem runAll_eq (queries : List Query) (forwarder : Forwarder)
    (meaningful : forwarder.settings.mode = .direct ∨ forwarder.settings.mode = .shell)
    (decodable : ∀ position < queries.length,
      Decodable (forwarder.answers (forwarder.calls.length + position)).result) :
    forwarder.runAll queries =
      (queries.mapIdx fun position query =>
        ((alone forwarder.settings
          (forwarder.answers (forwarder.calls.length + position))).run query).1,
        forwarder.having queries) := by
  induction queries generalizing forwarder with
  | nil => simp [runAll]
  | cons query rest ih =>
      have first : Decodable forwarder.due.result := decodable 0 (by simp)
      obtain ⟨result, ended, -⟩ := result_outcome forwarder.settings.program first
      -- A status that can be decoded keeps the process going, also after a launch that failed.
      have ran : forwarder.run query = (some result, forwarder.having [query]) := by
        rw [run_eq query meaningful, ended]
      have counted (position : Nat) :
          (forwarder.having [query]).calls.length + position =
            forwarder.calls.length + (position + 1) := by
        simp only [having, List.map_cons, List.map_nil, List.length_append, List.length_singleton]
        omega
      have later := ih (forwarder.having [query]) meaningful (by
        intro position within
        rw [counted]
        exact decodable (position + 1) (by simpa using within))
      have given : ((alone forwarder.settings
          (forwarder.answers (forwarder.calls.length + 0))).run query).1 = some result := by
        rw [run_alone query _ meaningful]
        exact ended
      rw [runAll_cons ran, later, List.mapIdx_cons, having_having, given]
      simp only [counted]
      rfl

theorem runAll_opening {answers : Nat → Launch}
    (meaningful : settings.mode = .direct ∨ settings.mode = .shell)
    (decodable : ∀ position < queries.length, Decodable (answers position).result) :
    ({ settings, answers } : Forwarder).runAll queries =
      (queries.mapIdx fun position query => ((alone settings (answers position)).run query).1,
        ({ settings, answers } : Forwarder).having queries) := by
  have counted (position : Nat) : ([] : List (List Bytes)).length + position = position :=
    Nat.zero_add position
  rw [runAll_eq queries { settings, answers } meaningful]
  · simp only [counted]
  · simpa only [counted] using decodable

/-- Queries run in order on one forwarder get one call each, in order.  Each gives, echoes and has
run what it does on a forwarder that gets its answer and has run nothing, also after launches that
have failed, and the echoes stand one behind the other. -/
theorem runAll_eq_alone {answers : Nat → Launch}
    (meaningful : settings.mode = .direct ∨ settings.mode = .shell)
    (decodable : ∀ position < queries.length, Decodable (answers position).result) :
    let used (queries : List Query) := ({ settings, answers } : Forwarder).runAll queries
    (used queries).1.length = queries.length ∧
    (used queries).2.settings = settings ∧
    (used queries).2.calls = queries.map (launched settings) ∧
    (used queries).2.out = queries.flatMap (echoLine settings) ∧
    ∀ position query, queries[position]? = some query →
      let one := (alone settings (answers position)).run query
      let before := (used (queries.take position)).2
      let after := (used (queries.take (position + 1))).2
      (∃ result, one.1 = some result ∧ (used queries).1[position]? = some (some result) ∧
        result.mapError ForwardError.failure = reported (answers position).result) ∧
      after.out = before.out ++ one.2.out ∧ one.2.out = echoLine settings query ∧
      after.calls = before.calls ++ one.2.calls ∧ one.2.calls = [launched settings query] := by
  intro used
  have whole : used queries = _ := runAll_opening meaningful decodable
  have front (count : Nat) : (used (queries.take count)).2 =
      ({ settings, answers } : Forwarder).having (queries.take count) := by
    refine congrArg Prod.snd (runAll_opening meaningful ?_)
    intro position within
    rw [List.length_take] at within
    exact decodable position (by omega)
  rw [whole]
  refine ⟨List.length_mapIdx, rfl, rfl, rfl, ?_⟩
  intro position query place one before after
  have within := (List.getElem?_eq_some_iff.mp place).1
  have further : queries.take (position + 1) = queries.take position ++ [query] := by
    rw [List.take_add_one, place, Option.toList_some]
  have ran : one = _ := run_alone query (answers position) meaningful
  have reached : after = before.having [query] := by
    show (used _).2 = (used _).2.having [query]
    rw [front, front, further, having_having]
  have same : before.settings = settings := by
    show (used _).2.settings = settings
    rw [front]
    rfl
  obtain ⟨result, ended, reports⟩ :=
    result_outcome settings.program (decodable position within)
  rw [reached, ran]
  refine ⟨⟨result, ended, ?_, reports⟩, ?_, ?_, ?_, ?_⟩
  · rw [List.getElem?_mapIdx, place, Option.map_some, run_alone query _ meaningful, ended]
  · simp [having, same, alone]
  · simp [having, alone]
  · simp [having, same, alone]
  · simp [having, alone]

/-- A launch that fails leaves nothing to the same query run again. -/
theorem runAll_eq_alone_failures :
    let settings : Settings := { program := ascii "trade.py", mode := .shell }
    let answers : Nat → Launch
      | 0 => { result := .error ⟨.notFound, ascii "E"⟩ }
      | 1 => { result := .error ⟨.invalidArgument, ascii "E"⟩ }
      | _ => { result := .ok ⟨9⟩ }
    let query : Query := ⟨ascii "New Sol", ascii "10", [ascii "-v"]⟩
    let used := ({ settings, answers } : Forwarder).runAll [query, query, query]
    let text := ascii "trade.py local \"New Sol\" --ly \"10\" -v"
    (settings.mode = .direct ∨ settings.mode = .shell) ∧
      (∀ position < 3, Decodable (answers position).result) ∧
      (∃ result, used.1[2]? = some (some result) ∧
        result.mapError ForwardError.failure = .ok 137) ∧
      used.2.calls = List.replicate 3 [ascii "/bin/sh", ascii "-c", text] := by
  intro settings answers query used text
  have meaningful : settings.mode = .direct ∨ settings.mode = .shell := .inr rfl
  have decodable : ∀ position < 3, Decodable (answers position).result := by
    intro position _ status ended
    match position with
    | 0 | 1 => cases ended
    | _ + 2 =>
        obtain rfl := Except.ok.inj ended
        decide
  obtain ⟨-, -, calls, -, each⟩ :=
    @runAll_eq_alone settings [query, query, query] answers meaningful decodable
  obtain ⟨⟨result, -, given, reports⟩, -⟩ := each 2 query rfl
  refine ⟨meaningful, decodable, ⟨result, given, reports.trans rfl⟩, ?_⟩
  rw [calls]
  decide +kernel

end Forwarder

end TradeLocal
