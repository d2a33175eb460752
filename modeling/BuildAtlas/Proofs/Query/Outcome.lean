import BuildAtlas.Query.Index

/-! # What replies make of queries

A query is over with the reply of the tool: what it has to give is the output of a command that
ended well, and otherwise a fault. The index is made of two such outputs and of nothing else.
-/
namespace BuildAtlas

namespace Query
variable {σ τ α : Type} {s : Settings} {c : Command} {reply : Except Fault Output} {o : Output}

/-- What there is to read in a reply: the output of a command that ended well. -/
def outcome (s : Settings) (reply : Except Fault Output) : Except Fault Output :=
  reply.bind (accept s)

theorem outcome_eq_ok_iff : outcome s reply = .ok o ↔ reply = .ok o ∧ o.succeeded := by
  cases reply with
  | error fault => simp [outcome, Except.bind]
  | ok output =>
    cases ho : output.succeeded with
    | true =>
      simp only [outcome, Except.bind, accept, ho, if_true, Except.ok.injEq]
      exact ⟨by rintro rfl; exact ⟨rfl, ho⟩, And.left⟩
    | false =>
      simp only [outcome, Except.bind, accept, ho, Except.ok.injEq, Bool.false_eq_true, if_false,
        reduceCtorEq, false_iff]
      rintro ⟨rfl, hsucceeded⟩
      simp [ho] at hsucceeded

section list
variable {tool : Tool σ} {st : σ} {opening what : String} {read : Output → Listing α}

theorem list_result : (list tool s c opening what read st).result =
    (outcome s (tool.run c st).1).map read := by
  rcases hrun : tool.run c st with ⟨reply, st'⟩
  cases reply with
  | error fault => simp [list, ask, hrun, outcome, Except.bind, Except.map]
  | ok o => cases ho : accept s o <;> simp [list, ask, hrun, outcome, Except.bind, Except.map, ho]

theorem list_tool : (list tool s c opening what read st).tool = (tool.run c st).2 := by
  rcases hrun : tool.run c st with ⟨reply, st'⟩
  cases reply with
  | error fault => simp [list, ask, hrun]
  | ok o => cases ho : accept s o <;> simp [list, ask, hrun, ho]

/-- Nothing of a tool but its reply goes into the notes. -/
theorem list_notes_congr {tool' : Tool τ} {st' : τ} (h : (tool.run c st).1 = (tool'.run c st').1) :
    (list tool s c opening what read st).notes = (list tool' s c opening what read st').notes := by
  rcases hrun : tool.run c st with ⟨reply, next⟩
  rcases hrun' : tool'.run c st' with ⟨reply', next'⟩
  obtain rfl : reply = reply' := by simpa [hrun, hrun'] using h
  cases reply with
  | error fault => simp [list, ask, hrun, hrun']
  | ok o => cases ho : accept s o <;> simp [list, ask, hrun, hrun', ho]

end list

variable (tool : Tool σ) (shell : Shell) (s : Settings) (st : σ)

@[simp] theorem targets_result : (targets tool shell s st).result =
    (outcome s (tool.run (targetCommand shell s) st).1).map Listing.targets :=
  list_result

@[simp] theorem sources_result : (sources tool shell s st).result =
    (outcome s (tool.run (sourceCommand shell s) st).1).map Listing.sources :=
  list_result

@[simp] theorem targets_tool :
    (targets tool shell s st).tool = (tool.run (targetCommand shell s) st).2 :=
  list_tool

@[simp] theorem sources_tool :
    (sources tool shell s st).tool = (tool.run (sourceCommand shell s) st).2 :=
  list_tool

/-- The outputs of both queries, or the fault of the first of them that fails. -/
def outputs : Except Fault (Output × Output) :=
  let first := tool.run (targetCommand shell s) st
  (outcome s first.1).bind fun out =>
    (outcome s (tool.run (sourceCommand shell s) first.2).1).map fun src => (out, src)

/-- The index made of what the two queries printed. -/
def indexOf (o : Output × Output) : Index :=
  .ofListings (Listing.targets o.1) (Listing.sources o.2)

theorem index_result :
    (index tool shell s st).result = (outputs tool shell s st).map indexOf := by
  simp only [index, outputs, targets_result, targets_tool]
  cases outcome s (tool.run (targetCommand shell s) st).1 with
  | error fault => rfl
  | ok out =>
    simp only [Except.map, Except.bind, sources_result]
    cases outcome s (tool.run (sourceCommand shell s) _).1 <;> rfl

/-- The tool is as the second query left it, or the first one when that did not end well. -/
theorem index_tool : (index tool shell s st).tool =
    let first := tool.run (targetCommand shell s) st
    if (outcome s first.1).isOk then (tool.run (sourceCommand shell s) first.2).2
    else first.2 := by
  simp only [index, targets_result]
  cases outcome s (tool.run (targetCommand shell s) st).1 <;>
    simp [Except.map, Except.isOk, Except.toBool]

end Query

end BuildAtlas
