import Lexicon.CommandLine.Parse
import Lexicon.Proofs.Command.Answer
import Lexicon.Proofs.Storage.Saving

/-!
# What the shell gets

Only a command that names something unknown is wrongly used, and only saving can fail. Each has its
exit code, and nothing is printed then; every other invocation succeeds and prints its answer.

## Main statements

* `Command.NamesUnknown`, `Invocation.FailsToSave`: what can go wrong.
* `Invocation.run_exact`: the exit code and the output of every run.
-/

namespace Lexicon

/-! ## What can go wrong -/

namespace Command

/-- The command names a kind or a method that there is not. -/
def NamesUnknown : Command → Prop
  | .text operands => ∃ operand ∈ operands, ∃ error, Kind.parse operand = .error error
  | .operators operand => ∃ error, Kind.parse operand = .error error
  | .metadata name => name ∉ MethodName.all.map (·.name)
  | .classify _ | .list _ | .check | .reference _ _ => False

/-- A command that takes several operands has one at least. -/
def HasOperands : Command → Prop
  | .classify operands | .text operands => operands ≠ []
  | .operators _ | .metadata _ | .list _ | .check | .reference _ _ => True

end Command

namespace CommandLine

theorem readCommand_operands {name : CommandName} {arguments : List String} {given : Given}
    (read : readCommand name arguments = .ok given) :
    name.arity = .none ∨ given.operands ≠ [] := by
  obtain ⟨progress, -, read⟩ := Failure.bind_eq_ok_iff.mp read
  obtain ⟨settled, -, read⟩ := Failure.bind_eq_ok_iff.mp read
  split at read
  · cases read
  next present =>
    cases read
    rwa [not_and_or, not_not] at present

theorem hasOperands_of_command {name : CommandName} {given : Given} {read : Command}
    (present : name.arity = .none ∨ given.operands ≠ []) (named : command name given = .ok read) :
    read.HasOperands := by
  unfold command at named
  split at named
  case h_1 | h_2 =>
    cases named
    exact present.resolve_left (by decide)
  case h_3 | h_4 | h_5 | h_6 =>
    cases named
    trivial
  case h_7 =>
    split at named <;> cases named
    trivial
  case h_8 => cases named

/-- A command line that lacks operands stands for no invocation. -/
theorem hasOperands_of_parse {arguments : List String} {invocation : Invocation}
    (read : parse arguments = .ok invocation) : invocation.command.HasOperands := by
  obtain ⟨⟨progress, lead⟩, -, read⟩ := Failure.bind_eq_ok_iff.mp read
  cases lead with
  | alone =>
    obtain ⟨given, -, read⟩ := Failure.bind_eq_ok_iff.mp read
    cases read
  | help topics => cases read
  | command name arguments =>
    obtain ⟨inner, given, read⟩ := Failure.bind_eq_ok_iff.mp read
    obtain ⟨outer, -, read⟩ := Failure.bind_eq_ok_iff.mp read
    obtain ⟨command, named, read⟩ := Failure.bind_eq_ok_iff.mp read
    cases read
    exact hasOperands_of_command (readCommand_operands given) named

end CommandLine

namespace Invocation

variable {σ : Type}

/-- Saving the reference fails, at the directories above its path or at the file. -/
def FailsToSave (disk : Storage.Disk (StateM σ)) (invocation : Invocation) (s : σ) : Prop :=
  ∃ out headingLevel, invocation.command = .reference (some out) headingLevel ∧
    disk.FailsToSave (.ofText out)
      (Reference.render (invocation.settings.withHeadingLevel headingLevel)) s

/-- The exit code tells what went wrong, and without anything wrong the answer is printed. It is
not empty if something was asked, and then it is printed with one line end. -/
structure IsExact (disk : Storage.Disk (StateM σ)) (invocation : Invocation) (s : σ)
    (outcome : Outcome) : Prop where
  usage : outcome.exitCode = 2 ↔ invocation.command.NamesUnknown
  failure : outcome.exitCode = 1 ↔ invocation.FailsToSave disk s
  success : outcome.exitCode = 0 ↔
    ¬invocation.command.NamesUnknown ∧ ¬invocation.FailsToSave disk s
  silent : outcome.exitCode ≠ 0 → outcome.stdout = ""
  printed : outcome.exitCode = 0 → ∃ output, ((invocation.answer disk).run s).1 = .ok output ∧
    (invocation.command.HasOperands → output ≠ "") ∧
    if output = "" then outcome.stdout = "" else LineEnd.EndsOnce output outcome.stdout

variable {disk : Storage.Disk (StateM σ)} {invocation : Invocation} {s : σ}

theorem run_eq : ((invocation.run disk).run s).1 = .ofAnswer ((invocation.answer disk).run s).1 :=
  rfl

namespace IsExact

theorem of_ok {output : String} (answer : ((invocation.answer disk).run s).1 = .ok output)
    (nonempty : invocation.command.HasOperands → output ≠ "")
    (known : ¬invocation.command.NamesUnknown) (saves : ¬invocation.FailsToSave disk s) :
    invocation.IsExact disk s ((invocation.run disk).run s).1 where
  usage := by simp [run_eq, answer, Outcome.ofAnswer, known]
  failure := by simp [run_eq, answer, Outcome.ofAnswer, saves]
  success := by simp [run_eq, answer, Outcome.ofAnswer, known, saves]
  silent := by simp [run_eq, answer, Outcome.ofAnswer]
  printed _ := by
    rw [run_eq, answer]
    refine ⟨output, rfl, nonempty, ?_⟩
    split
    next empty => simp [Outcome.ofAnswer, LineEnd.printed, empty]
    next nonempty => exact LineEnd.endsOnce_printed nonempty

theorem of_error {refusal : Refusal} (answer : ((invocation.answer disk).run s).1 = .error refusal)
    (cause : refusal.exitCode = 2 ∧ invocation.command.NamesUnknown ∧
        ¬invocation.FailsToSave disk s ∨
      refusal.exitCode = 1 ∧ ¬invocation.command.NamesUnknown ∧ invocation.FailsToSave disk s) :
    invocation.IsExact disk s ((invocation.run disk).run s).1 := by
  rw [run_eq, answer]
  rcases cause with ⟨code, unknown, saves⟩ | ⟨code, known, fails⟩
  · constructor <;> simp [Outcome.ofAnswer, code, unknown, saves]
  · constructor <;> simp [Outcome.ofAnswer, code, known, fails]

theorem of_refusesIff {answer : Except Refusal String}
    (answered : invocation.answer disk = pure answer) (saves : ¬invocation.FailsToSave disk s)
    (refuses : Answer.RefusesIff invocation.command.NamesUnknown invocation.command.HasOperands
      answer) :
    invocation.IsExact disk s ((invocation.run disk).run s).1 := by
  have eq : ((invocation.answer disk).run s).1 = answer := by rw [answered]; rfl
  cases refuses with
  | answered known nonempty => exact of_ok eq nonempty known saves
  | refused unknown code => exact of_error eq (.inl ⟨code, unknown, saves⟩)

end IsExact

/-! ## Saving the reference -/

theorem reference_run (disk : Storage.Disk (StateM σ)) (settings : Settings) (out : String)
    (s : σ) :
    ((reference disk settings (some out)).run s).1 =
      match ((disk.save (.ofText out) (Reference.render settings)).run s).1 with
      | .ok () => .ok ("Wrote reference to " ++ out)
      | .error error => .error (.failure error.message) := by
  rw [reference, StateT.run_bind]
  cases (disk.save (.ofText out) (Reference.render settings)).run s with
  | mk result t => cases result <;> rfl

theorem isExact_reference {out : String} {headingLevel : Nat}
    (command : invocation.command = .reference (some out) headingLevel) :
    invocation.IsExact disk s ((invocation.run disk).run s).1 := by
  have known : ¬invocation.command.NamesUnknown := by simp [command, Command.NamesUnknown]
  have fails : invocation.FailsToSave disk s ↔ disk.FailsToSave (.ofText out)
      (Reference.render (invocation.settings.withHeadingLevel headingLevel)) s := by
    simp [FailsToSave, command]
  have answer := reference_run disk (invocation.settings.withHeadingLevel headingLevel) out s
  have same : invocation.answer disk =
      reference disk (invocation.settings.withHeadingLevel headingLevel) (some out) := by
    simp [Invocation.answer, command]
  rw [← same] at answer
  rw [Storage.Disk.failsToSave_iff] at fails
  split at answer
  next saved => exact .of_ok answer (fun _ => by simp) known (by simp [fails, saved])
  next error failed => exact .of_error answer (.inr ⟨rfl, known, fails.mpr ⟨error, failed⟩⟩)

/-! ## Every run -/

theorem not_failsToSave (keeps : ∀ out headingLevel,
    invocation.command ≠ .reference (some out) headingLevel) : ¬invocation.FailsToSave disk s := by
  rintro ⟨out, headingLevel, eq, -⟩
  exact keeps out headingLevel eq

/-- Whatever the disk is and holds, the exit code tells what went wrong with an invocation: two for
something unknown, one for a failure to save, and zero if nothing did. Only then is something
printed, and that is the answer with one line end. -/
theorem run_exact (disk : Storage.Disk (StateM σ)) (invocation : Invocation) (s : σ) :
    invocation.IsExact disk s ((invocation.run disk).run s).1 := by
  obtain ⟨command, format, noSynonyms⟩ := invocation
  cases command with
  | classify operands =>
    exact .of_refusesIff rfl (not_failsToSave (by simp))
      (.answered not_false Answer.classify_ne_empty)
  | text operands =>
    exact .of_refusesIff rfl (not_failsToSave (by simp)) Answer.text_refusesIff
  | operators operand =>
    exact .of_refusesIff rfl (not_failsToSave (by simp)) Answer.operators_refusesIff
  | metadata name => exact .of_refusesIff rfl (not_failsToSave (by simp)) Answer.method_refusesIff
  | list set =>
    exact .of_refusesIff rfl (not_failsToSave (by simp))
      (.answered not_false fun _ => Answer.list_ne_empty set)
  | check => exact .of_refusesIff rfl (not_failsToSave (by simp)) Answer.check_refusesIff
  | reference out headingLevel =>
    cases out with
    | none =>
      exact .of_refusesIff rfl (not_failsToSave (by simp))
        (.answered not_false fun _ => Markdown.render_ne_empty _ _)
    | some out => exact isExact_reference rfl

end Invocation

end Lexicon
