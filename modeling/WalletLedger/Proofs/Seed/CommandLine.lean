import WalletLedger.Proofs.Database.Files
import WalletLedger.Proofs.Seed.OpeningBalances

/-!
# What a command line asks for

Arguments are a list of switches, read from the left (`switches`), and a command line
comes to what its switches say (`ofArgs_eq`). It is in order when no switch asks for help
and every balance can be read. Then it asks for seeding, with the last path and the last
balance that it gives (`ofSwitches_of_inOrder`); otherwise it never gets that far
(`ofSwitches_of_not_inOrder`).

A run whose command line is not in order leaves every file as it is
(`Invocation.run_of_not_inOrder`). One that is in order opens the file that its path is read
as, if there is one (`Invocation.Reaches`).
-/

namespace WalletLedger.Seed

open Database

/-! ## Switches -/

/-- What an argument says, with its value. -/
inductive Switch
  | help
  | path (value : String)
  | balance (raw : String)
deriving DecidableEq, Repr

/-- What arguments say. An option takes the next argument for its value, whatever that is; one
without a value and an argument that is no option say nothing. -/
def switches : List String → List Switch
  | [] => []
  | arg :: rest =>
    if arg = "--help" ∨ arg = "-h" then .help :: switches rest
    else match rest with
      | value :: rest' =>
        if arg = "--db" ∨ arg = "-d" then .path value :: switches rest'
        else if arg = "--balance" ∨ arg = "-b" then .balance value :: switches rest'
        else switches (value :: rest')
      | [] => []

namespace Switch

/-- The path that a switch gives. -/
def path? : Switch → Option String
  | .path value => some value
  | _ => none

/-- The balance that a switch gives. -/
def balance? : Switch → Option Money
  | .balance raw => (readBalance raw).toOption
  | _ => none

/-- A switch is no obstacle to seeding: it does not ask for help, and a balance can be read. -/
def IsInOrder : Switch → Prop
  | .help => False
  | .path _ => True
  | .balance raw => ∃ m, readBalance raw = .ok m

end Switch

/-- The command of switches after others that gave a path and a balance. -/
def Command.ofSwitches (path : Option String) (balance : Option Money) :
    List Switch → Except BalanceError Command
  | [] => .ok (.seed path balance)
  | .help :: _ => .ok .help
  | .path value :: rest => ofSwitches (some value) balance rest
  | .balance raw :: rest =>
    match readBalance raw with
    | .ok m => ofSwitches path (some m) rest
    | .error e => .error e

/-- A command line comes to what its switches say. -/
theorem ofArgs_eq (path : Option String) (balance : Option Money) (args : List String) :
    Command.ofArgs path balance args = Command.ofSwitches path balance (switches args) := by
  fun_induction switches args generalizing path balance with
  | case1 => rfl
  | case2 arg rest help =>
    rw [Command.ofArgs.eq_def]
    simp only [Command.ofSwitches, help, ↓reduceIte]
  | case3 arg noHelp value rest isPath ih =>
    simp [Command.ofArgs, Command.ofSwitches, noHelp, isPath, ih]
  | case4 arg noHelp value rest noPath isBalance ih =>
    simp only [Command.ofArgs, Command.ofSwitches, noHelp, noPath, isBalance, ↓reduceIte]
    rcases readBalance value with e | m
    · rfl
    · exact ih path (some m)
  | case5 arg noHelp value rest noPath noBalance ih =>
    rw [← ih, Command.ofArgs.eq_def]
    simp only [noHelp, noPath, noBalance, ↓reduceIte]
  | case6 arg noHelp => simp [Command.ofArgs, Command.ofSwitches, noHelp]

/-- The last path of switches. -/
def lastPath? (ss : List Switch) : Option String :=
  (ss.filterMap Switch.path?).getLast?

/-- The last balance of switches. -/
def lastBalance? (ss : List Switch) : Option Money :=
  (ss.filterMap Switch.balance?).getLast?

theorem ofSwitches_of_inOrder {ss : List Switch} (inOrder : ∀ s ∈ ss, s.IsInOrder)
    (path : Option String) (balance : Option Money) :
    Command.ofSwitches path balance ss =
      .ok (.seed ((lastPath? ss).or path) ((lastBalance? ss).or balance)) := by
  induction ss generalizing path balance with
  | nil => rfl
  | cons s ss ih =>
    have rest := ih fun s mem => inOrder s (List.mem_cons_of_mem _ mem)
    have own := inOrder s List.mem_cons_self
    cases s with
    | help => exact own.elim
    | path value =>
      rw [Command.ofSwitches, rest]
      simp [lastPath?, lastBalance?, Switch.path?, Switch.balance?, List.getLast?_cons]
    | balance raw =>
      obtain ⟨m, read⟩ := own
      simp only [Command.ofSwitches, read, rest]
      simp [lastPath?, lastBalance?, Switch.path?, Switch.balance?, read, Except.toOption,
        List.getLast?_cons]

theorem ofSwitches_of_not_inOrder {ss : List Switch} (flawed : ∃ s ∈ ss, ¬ s.IsInOrder)
    (path : Option String) (balance : Option Money) :
    Command.ofSwitches path balance ss = .ok .help ∨
      ∃ e, Command.ofSwitches path balance ss = .error e := by
  induction ss generalizing path balance with
  | nil => simp at flawed
  | cons s ss ih =>
    have rest (own : s.IsInOrder) : ∃ s ∈ ss, ¬ s.IsInOrder := by
      obtain ⟨s', mem, flaw⟩ := flawed
      rcases List.mem_cons.mp mem with rfl | mem
      · exact absurd own flaw
      · exact ⟨s', mem, flaw⟩
    cases s with
    | help => exact .inl rfl
    | path value => exact ih (rest trivial) _ _
    | balance raw =>
      unfold Command.ofSwitches
      rcases read : readBalance raw with e | m
      · exact .inr ⟨e, rfl⟩
      · exact ih (rest ⟨m, read⟩) _ _

/-! ## Runs of command lines -/

/-- A command line with the variables that it finds and the hashes that it gets. -/
structure Invocation where
  args : List String
  lookup : String → Option String
  hasher : Hasher

namespace Invocation

variable {r : Invocation} {d : Disk} {file : List String}

/-- What is reported, and the files afterwards. -/
def run (r : Invocation) (d : Disk) : Report × Disk :=
  Seed.run r.hasher r.args r.lookup d

/-- The command line neither asks for help nor gives a balance that cannot be read. -/
def IsInOrder (r : Invocation) : Prop :=
  ∀ s ∈ switches r.args, s.IsInOrder

/-- The opening balance of a command line. -/
def balance (r : Invocation) : Money :=
  (lastBalance? (switches r.args)).getD standardBalance

/-- The settings can be read, and the path of a command line is read as that of a file. -/
def Reaches (r : Invocation) (d : Disk) (file : List String) : Prop :=
  ∃ config path, Config.load r.lookup = .ok config ∧
    Location.ofPath ((lastPath? (switches r.args)).getD config.databasePath) = .ok (.file path) ∧
    d.filePath? path = some file

/-- A command line that is not in order leaves every file as it is. -/
theorem run_of_not_inOrder (flawed : ¬ r.IsInOrder) (d : Disk) : (r.run d).2 = d := by
  have flawed : ∃ s ∈ switches r.args, ¬ s.IsInOrder := by
    simpa [IsInOrder] using flawed
  unfold run Seed.run
  rcases Config.load r.lookup with e | config
  · rfl
  · rw [ofArgs_eq]
    rcases ofSwitches_of_not_inOrder flawed none none with help | ⟨e, refused⟩
    · simp only [help]
    · simp only [refused]

/-- An amount that is read is above zero, and so is the one when none is given. -/
theorem balance_positive (r : Invocation) : 0 < r.balance.value := by
  unfold balance
  rcases last : lastBalance? (switches r.args) with _ | m
  · decide
  · obtain ⟨s, -, gives⟩ := List.mem_filterMap.mp (List.mem_of_getLast? last)
    cases s with
    | balance raw =>
      rcases read : readBalance raw with e | m' <;>
        simp only [Switch.balance?, read, Except.toOption, Option.some.injEq, reduceCtorEq] at gives
      obtain ⟨n, -, above, -, cents⟩ := readBalance_of_ok (gives ▸ read)
      show 0 < m.value
      omega
    | help | path => cases gives

end Invocation

end WalletLedger.Seed
