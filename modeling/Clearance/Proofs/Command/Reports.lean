import Clearance.Command.Run
import Clearance.Host.Machine
import Clearance.Proofs.Json.Printed

/-!
# Commands that read files

A command asks its host for one file after another and leaves the machine as it was.  If all of them
can be read, an evaluation prints the report on what they hold, in a form that is read back.

## Main definitions

* `Machine.document?`, `Machine.notes?`: what files of a machine hold
* `Command.Reads`: a part of a command that succeeds and changes nothing

## Main results

* `Command.run_evaluate`: an evaluation prints the document of its report
* `Command.parse_documentLines`: a document that is printed is read back
* `Offline.Report.printable_toJson`: the document of a report is one of these
-/

namespace Clearance

/-- What the document in a file of a machine stands for, if it can be read. -/
def Machine.document? {α : Type} (machine : Machine) (format : Json.Format α) (path : String) :
    Option α :=
  match machine.read path >>= Host.decodeText with
  | .error _ => none
  | .ok text => (format.ofText text).toOption

/-- What the notes of a command stand for, if they can be read.  Without a file there are none. -/
def Machine.notes? (machine : Machine) : Option String → Option (List Note)
  | some path => machine.document? (.list Note.format) path
  | none => some []

namespace Command

variable {machine : Machine} {α β : Type} {a : α} {b : β}

/-- On a machine, a part of a command succeeds and leaves the machine as it was. -/
def Reads (machine : Machine) (act : ExceptT CommandFault (StateM Machine) α) (a : α) : Prop :=
  act.run.run machine = (.ok a, machine)

theorem Reads.pure (machine : Machine) (a : α) : Reads machine (pure a) a := rfl

theorem Reads.bind {act : ExceptT CommandFault (StateM Machine) α}
    {next : α → ExceptT CommandFault (StateM Machine) β} (h : Reads machine act a)
    (hnext : Reads machine (next a) b) : Reads machine (act >>= next) b := by
  rw [Reads] at h
  rw [Reads, ExceptT.run_bind, StateT.run_bind, h]
  exact hnext

/-- What does not fail without a look at the machine. -/
theorem Reads.lift (machine : Machine) (a : α) :
    Reads machine (liftM (Except.ok a : Except CommandFault α)) a := rfl

/-- A document that can be read is read. -/
theorem reads_document {format : Json.Format α} {path : String}
    (h : machine.document? format path = some a) :
    Reads machine (readDocument Machine.host format path) a := by
  unfold Machine.document? at h
  split at h
  · cases h
  · next text htext =>
    have hread : Reads machine (liftM (Machine.host.readText path)) (Except.ok text) :=
      congrArg (fun read => (Except.ok read, machine)) htext
    refine hread.bind ?_
    cases hvalue : format.ofText text with
    | error fault =>
      rw [hvalue] at h
      cases h
    | ok v =>
      rw [hvalue] at h
      obtain rfl := Option.some.inj h
      simp only [hvalue]
      exact .pure machine v

/-- Notes that can be read are read. -/
theorem reads_notes {path : Option String} {notes : List Note}
    (h : machine.notes? path = some notes) :
    Reads machine (readNotes Machine.host path) notes := by
  cases path with
  | none =>
    obtain rfl := Option.some.inj h
    exact .pure machine []
  | some path => exact reads_document h

variable {e : Evaluation} {entitlements : List String} {selection : Option Selection}
  {active : ActiveSet} {payloads : List Fields} {notes : List Note}

/-- The report of an evaluation whose files can be read and whose narrowing succeeds. -/
theorem reads_report
    (hentitlements : machine.document? (.list .text) e.entitlements = some entitlements)
    (hselection : e.selection = .ok selection)
    (hactive : Offline.activeSet (entitlements.map .mk) selection = .ok active)
    (hobjects : machine.document? (.list .fields) e.objects = some payloads)
    (hnotes : machine.notes? e.notes = some notes) :
    Reads machine (e.report Machine.host)
      (Offline.report active (Offline.markings payloads) notes) := by
  have hmarkings : Reads machine (readMarkings Machine.host e.objects)
      (Offline.markings payloads) := by
    rw [readMarkings, map_eq_pure_bind]
    exact (reads_document hobjects).bind (.pure machine _)
  refine (reads_document hentitlements).bind ?_
  rw [hselection]
  refine (Reads.lift machine selection).bind ?_
  rw [hactive]
  refine (Reads.lift machine active).bind ?_
  exact hmarkings.bind ((reads_notes hnotes).bind (.pure machine _))

/-- **An evaluation prints the document of its report**, on a machine on which its files can be
read, and leaves the machine as it was. -/
theorem run_evaluate
    (hentitlements : machine.document? (.list .text) e.entitlements = some entitlements)
    (hselection : e.selection = .ok selection)
    (hactive : Offline.activeSet (entitlements.map .mk) selection = .ok active)
    (hobjects : machine.document? (.list .fields) e.objects = some payloads)
    (hnotes : machine.notes? e.notes = some notes) :
    (run Machine.host (.evaluate e)).run machine =
      ({ text := documentLines e.indented
          (Offline.report active (Offline.markings payloads) notes).toJson }, machine) := by
  have hprinted : Reads machine
      (do return documentLines e.indented (← e.report Machine.host).toJson)
      (documentLines e.indented
        (Offline.report active (Offline.markings payloads) notes).toJson) :=
    (reads_report hentitlements hselection hactive hobjects hnotes).bind (.pure machine _)
  rw [run, StateT.run_map, hprinted]
  rfl

/-! ## What is printed -/

/-- **A printed document is read back**, in either form. -/
theorem parse_documentLines {d : Nat} {v : Json} (h : Json.Printable d v) (hd : d ≤ Json.maxDepth)
    (indented : Bool) : Json.parse (documentLines indented v).toList = .ok v := by
  have hgap : Json.Blank "\n".toList := Json.blank_singleton rfl
  rw [documentLines, line, String.toList_append]
  cases indented with
  | true => exact h.parse_indented hd hgap
  | false => exact h.parse_compact hd hgap

end Command

theorem Verdict.printable_toJson (d : Nat) (verdict : Verdict) :
    Json.Printable (d + 2) verdict.toJson := by
  have hstring := Json.printable_string (d + 1)
  have hstrings := Json.printable_ofStrings d
  cases verdict with
  | allowed => exact .object (List.pairwise_singleton _ _) (by simp [hstring])
  | missingAllOf missing =>
    have hkeys : ["missing", "verdict"].Pairwise (· < ·) := by decide
    exact .object (List.pairwise_map.mp hkeys) (by simp [hstring, hstrings])
  | noRelToOverlap relTo =>
    have hkeys : ["rel_to", "verdict"].Pairwise (· < ·) := by decide
    exact .object (List.pairwise_map.mp hkeys) (by simp [hstring, hstrings])
  | unreadable reason =>
    have hkeys : ["reason", "verdict"].Pairwise (· < ·) := by decide
    exact .object (List.pairwise_map.mp hkeys) (by simp [hstring])

/-- **The document of a report is printable.** -/
theorem Offline.Report.printable_toJson (r : Report) : Json.Printable 5 r.toJson := by
  have hnote : ∀ n ∈ r.notes, Json.Printable 3 (.object
      [("id", .string n.1.id), ("parentId", (n.1.parentId.map Json.string).getD .null),
        ("result", n.2.toJson)]) := by
    intro n _
    have hkeys : ["id", "parentId", "result"].Pairwise (· < ·) := by decide
    have hparent : Json.Printable 2 ((n.1.parentId.map Json.string).getD .null) := by
      cases n.1.parentId with
      | none => exact Json.printable_null 2
      | some id => exact Json.printable_string 2 id
    refine .object (List.pairwise_map.mp hkeys) ?_
    simp [Json.printable_string, hparent, Verdict.printable_toJson 0]
  have hobject : ∀ o ∈ r.objects, Json.Printable 3 (.object
      [("id", .string o.1.id), ("result", o.2.toJson)]) := by
    intro o _
    have hkeys : ["id", "result"].Pairwise (· < ·) := by decide
    refine .object (List.pairwise_map.mp hkeys) ?_
    simp [Json.printable_string, Verdict.printable_toJson 0]
  have hkeys : ["active", "banner", "notes", "objects"].Pairwise (· < ·) := by decide
  have hnotes := Json.Printable.array (List.forall_mem_map.mpr hnote)
  have hobjects := Json.Printable.array (List.forall_mem_map.mpr hobject)
  refine .object (List.pairwise_map.mp hkeys) ?_
  simp [Json.printable_string, Json.printable_ofStrings, hnotes, hobjects]

end Clearance
