import WalletLedger.Proofs.Configuration
import WalletLedger.Proofs.Seed.CommandLine
import WalletLedger.Proofs.Seed.Steps

/-!
# Seeding again

A command line that is in order and reaches a file that is not there puts all users and
products into it (`run_of_absent`), or the users before the first whose password cannot be
hashed (`run_of_unhashed`), and one that reaches a file that was seeded leaves its tables as
they are (`run_of_seeded`). So of any command lines for one file, the first that is in order
seeds it, and those after it change nothing (`seeding_is_idempotent`).
-/

namespace WalletLedger

open Memory Database

/-! ## Settings -/

theorem Database.Cutoff.ofDeadline_of_long {limit : Duration} (long : limit.nanos ≠ 0) :
    Cutoff.ofDeadline (some limit) = none :=
  if_neg long

theorem Duration.nanos_ofMillis_ne_zero {n : Nat} (positive : n ≠ 0) : (ofMillis n).nanos ≠ 0 :=
  Nat.mul_ne_zero positive (by decide)

/-- Settings that are loaded have connections, and a deadline that is not reached. -/
theorem Config.load_bounds {lookup : String → Option String} {config : Config}
    (loaded : Config.load lookup = .ok config) : 0 < config.maxConnections ∧
      Cutoff.ofDeadline (some config.operationTimeout) = none := by
  obtain ⟨obeys, reads⟩ := load_eq_ok_iff.mp loaded
  have connections : ¬ Text.Unsigned (Setting.maxConnections.text lookup).toList 0 :=
    obeys (.maxConnections, .notZero) (by simp [rules])
  have operation : ¬ Text.Unsigned (Setting.operationTimeout.text lookup).toList 0 :=
    obeys (.operationTimeout, .notZero) (by simp [rules])
  constructor
  · refine Nat.pos_of_ne_zero fun zero => connections ?_
    exact zero ▸ reads.maxConnections
  · obtain ⟨n, named, timeout⟩ := reads.operationTimeout
    have positive : n ≠ 0 := fun zero => operation (zero ▸ named)
    exact Cutoff.ofDeadline_of_long (timeout ▸ Duration.nanos_ofMillis_ne_zero positive)

/-! ## One command line -/

namespace Seed

namespace Invocation

variable {r : Invocation} {d d' : Disk} {file : List String}

/-- Which file is reached depends on the directories only. -/
theorem Reaches.congr (h : r.Reaches d file) (same : d'.directory = d.directory) :
    r.Reaches d' file := by
  obtain ⟨config, path, loaded, read, there⟩ := h
  exact ⟨config, path, loaded, read, (Disk.filePath?_congr same path).trans there⟩

/-- A command line that is in order and reaches a file runs the script on the database that is
opened, and keeps what the script leaves. -/
theorem run_of_reaches (inOrder : r.IsInOrder) (reaches : r.Reaches d file) :
    ∃ (s : Settings) (limit : Duration) (lines : List String), s.pool.IsFree ∧
      s.runMigrations = true ∧ Cutoff.ofDeadline (some limit) = none ∧
      r.run d = match seed (services limit) r.hasher r.balance ⟨lines, d.opened s file⟩ with
        | (.ok (), p) => (.success p.lines, d.keep (some file) p.database)
        | (.error line, p) => (.failure p.lines line, d.keep (some file) p.database) := by
  obtain ⟨config, path, loaded, read, there⟩ := reaches
  obtain ⟨connections, unhurried⟩ := Config.load_bounds loaded
  let set : Config :=
    { config with databasePath := (lastPath? (switches r.args)).getD config.databasePath }
  have opened : d.open? set.databaseSettings =
      .ok (some file, d.opened set.databaseSettings file) :=
    Disk.open?_of_file connections read there
  have asked : Command.ofArgs none none r.args = .ok (.seed (lastPath? (switches r.args))
      (lastBalance? (switches r.args))) := by
    rw [ofArgs_eq, ofSwitches_of_inOrder inOrder, Option.or_none, Option.or_none]
  refine ⟨set.databaseSettings, set.operationTimeout, header set.databasePath,
    Disk.isFree_pool connections, rfl, unhurried, ?_⟩
  unfold run Seed.run
  rw [loaded, asked]
  show runOn r.hasher set r.balance d = _
  unfold runOn
  simp only [opened]
  rcases seed (services set.operationTimeout) _ _ _ with ⟨_ | _, p⟩ <;> rfl

/-- A script that comes to its end leaves its goal in the file. -/
theorem run_of_yields (inOrder : r.IsInOrder) (reaches : r.Reaches d file) {Q : Database → Prop}
    (seeds : ∀ (s : Settings) (limit : Duration), s.pool.IsFree → s.runMigrations = true →
      Cutoff.ofDeadline (some limit) = none →
      (seed (services limit) r.hasher r.balance).Yields (d.opened s file) fun _ db => Q db) :
    (r.run d).1.exit = 0 ∧ ∃ db, Q db ∧ (r.run d).2 = d.keep (some file) db := by
  obtain ⟨s, limit, lines, free, migrates, unhurried, runs⟩ := run_of_reaches inOrder reaches
  obtain ⟨⟨⟩, lines', db, script, goal⟩ := seeds s limit free migrates unhurried lines
  rw [runs, script]
  exact ⟨rfl, db, goal, rfl⟩

/-- The database of a file that is not there has no rows. -/
theorem holds_opened (absent : d.find? file = none) {s : Settings} (free : s.pool.IsFree)
    (migrates : s.runMigrations = true) :
    Holds r.hasher r.balance [] [] (d.opened s file) := by
  have empty : d.opened s file = .opening [] d.supply [] true s.pool := by
    unfold Disk.opened
    rw [absent, if_pos migrates]
    rfl
  rw [empty]
  exact ⟨_, Mirrors.opening d.supply true free, .start r.hasher r.balance d.supply.inOrder⟩

/-- A file that is not there is seeded. -/
theorem run_of_absent (inOrder : r.IsInOrder) (reaches : r.Reaches d file)
    (hashes : r.hasher.Succeeds) (absent : d.find? file = none) : (r.run d).1.exit = 0 ∧
      ∃ db, Holds r.hasher r.balance users products db ∧ (r.run d).2 = d.keep (some file) db :=
  run_of_yields inOrder reaches fun _ _ free migrates unhurried =>
    yields_seed_empty unhurried hashes r.balance_positive (holds_opened absent free migrates)

/-- A password that cannot be hashed ends the command with the reason. The users before are in
the file then, with their wallets and their money, and no product is. -/
theorem run_of_unhashed (inOrder : r.IsInOrder) (reaches : r.Reaches d file)
    (absent : d.find? file = none) {made rest : List (String × Int64)} {username text : String}
    {role : Int64} (eq : users = made ++ (username, role) :: rest)
    (hashes : ∀ user ∈ made, ∃ hash, r.hasher.hashPassword user.1 = .ok hash)
    (failed : r.hasher.hashPassword username = .error text) :
    (r.run d).1.exit = 1 ∧ (r.run d).1.errors = ["Error: " ++ Text.quoted text] ∧
      ∃ db, Holds r.hasher r.balance made [] db ∧ (r.run d).2 = d.keep (some file) db := by
  obtain ⟨s, limit, lines, free, migrates, unhurried, runs⟩ := run_of_reaches inOrder reaches
  obtain ⟨lines', db, script, goal⟩ := stops_seed_empty unhurried r.balance_positive eq hashes
    failed (holds_opened absent free migrates) lines
  rw [runs, script]
  exact ⟨rfl, rfl, db, goal, rfl⟩

/-- A file that was seeded is left as it is. -/
theorem run_of_seeded (reaches : r.IsInOrder → r.Reaches d file) {b : Books} {db : Database}
    (found : d.find? file = some db) (tables : db.tables = tablesOf b)
    (some : 0 < b.users.length) :
    (r.run d).2.directory = d.directory ∧
      ∃ db', (r.run d).2.find? file = .some db' ∧ db'.tables = tablesOf b := by
  by_cases inOrder : r.IsInOrder
  · have kept : (r.run d).1.exit = 0 ∧ ∃ db', db'.tables = tablesOf b ∧
        (r.run d).2 = d.keep (.some file) db' := by
      refine run_of_yields inOrder (reaches inOrder) fun s limit free migrates _ => ?_
      have opened : (d.opened s file).tables = tablesOf b ∧ (d.opened s file).pool = s.pool := by
        unfold Disk.opened
        have known : db.tables.migrations = .some knownMigrations := by
          rw [tables]
          rfl
        rw [found, if_pos migrates]
        simp only [Option.getD_some, Database.migrated, known, ↓reduceIte, and_true]
        exact tables
      refine (yields_seed_populated (opened.2 ▸ free) opened.1 some limit r.hasher
        r.balance).mono ?_
      rintro _ _ rfl
      exact opened.1
    obtain ⟨-, db', unchanged, files⟩ := kept
    rw [files]
    exact ⟨rfl, db', Disk.find?_keep d file db', unchanged⟩
  · rw [run_of_not_inOrder inOrder]
    exact ⟨rfl, db, found, tables⟩

/-! ## Command lines one after another -/

/-- The files after command lines, one after another. -/
def runAll (runs : List Invocation) (d : Disk) : Disk :=
  runs.foldl (fun d r => (r.run d).2) d

theorem runAll_of_not_inOrder {runs : List Invocation} (flawed : ∀ r ∈ runs, ¬ r.IsInOrder)
    (d : Disk) : runAll runs d = d := by
  induction runs with
  | nil => rfl
  | cons r runs ih =>
    show runAll runs (r.run d).2 = d
    rw [run_of_not_inOrder (flawed r List.mem_cons_self)]
    exact ih fun r mem => flawed r (List.mem_cons_of_mem _ mem)

theorem runAll_of_seeded {runs : List Invocation} {b : Books} {db : Database}
    (reach : ∀ r ∈ runs, r.IsInOrder → r.Reaches d file) (found : d.find? file = some db)
    (tables : db.tables = tablesOf b) (some : 0 < b.users.length) :
    ∃ db', (runAll runs d).find? file = .some db' ∧ db'.tables = tablesOf b := by
  induction runs generalizing d db with
  | nil => exact ⟨db, found, tables⟩
  | cons r runs ih =>
    obtain ⟨same, db', found', tables'⟩ :=
      run_of_seeded (reach r List.mem_cons_self) found tables some
    exact ih (fun r mem inOrder => (reach r (List.mem_cons_of_mem _ mem) inOrder).congr same)
      found' tables'

end Invocation

open Invocation

/-- Command lines that ask for help, or give a balance that cannot be read, write nothing. Where
all others reach one file, which is not there at first, the first of the others seeds it, if
the password can be hashed for each user: its database has the tables of books into which the
users and the products were put and nothing else, so each of the three users has one wallet, an
ordinary user's with the opening balance and one deposit of it, the administrator's without
either, and there are four products; every user has the hash that the password came to. The
tables are the same after any later command lines, whatever hashes these would get. -/
theorem seeding_is_idempotent {d : Disk} {file : List String} (absent : d.find? file = none)
    {runs : List Invocation} (reach : ∀ r ∈ runs, r.IsInOrder → r.Reaches d file) :
    (∀ r : Invocation, ¬ r.IsInOrder → ∀ d, (r.run d).2 = d) ∧
    ((∀ r ∈ runs, ¬ r.IsInOrder) → runAll runs d = d) ∧
    ∀ early r late, runs = early ++ r :: late → (∀ q ∈ early, ¬ q.IsInOrder) → r.IsInOrder →
      r.hasher.Succeeds → runAll early d = d ∧ (r.run d).1.exit = 0 ∧
      ∃ b : Books, b.Populated r.hasher r.balance users products ∧
        (∀ u ∈ b.users, ∃ w, b.wallets.filter (·.userId == u.id) = [w] ∧
          w.balance = openingMoney r.balance u.roleId ∧
          (b.entries.filter (·.walletId == w.id)).map (·.kind) =
            if u.roleId = User.userRole then [.deposit w.balance] else []) ∧
        ∀ later, later <+: late → ∃ db,
          (runAll (early ++ r :: later) d).find? file = some db ∧ db.tables = tablesOf b := by
  refine ⟨fun r flawed => run_of_not_inOrder flawed, fun flawed => runAll_of_not_inOrder flawed d,
    ?_⟩
  rintro early r late rfl flawed inOrder hashes
  have before := runAll_of_not_inOrder flawed d
  obtain ⟨exit, db, ⟨b, mirrors, h⟩, seeded⟩ :=
    run_of_absent inOrder (reach r (by simp) inOrder) hashes absent
  refine ⟨before, exit, b, h, fun u mem => h.account r.balance_positive mem, fun later start => ?_⟩
  have runs : runAll (early ++ r :: later) d = runAll later (d.keep (some file) db) := by
    unfold runAll at before ⊢
    rw [List.foldl_append, before, List.foldl_cons, seeded]
  rw [runs]
  have users : 0 < b.users.length := by
    rw [h.length_users]
    decide
  refine runAll_of_seeded (fun q mem inOrder => ?_) (Disk.find?_keep d file db) mirrors.tables users
  exact (reach q (by simp [start.subset mem]) inOrder).congr rfl

/-- Hashes that tell what they were made of. -/
def Hasher.telling : Hasher := ⟨id, fun password salt => .ok (salt ++ "$" ++ password)⟩

/-- Nothing can be hashed. -/
def Hasher.failing : Hasher := ⟨id, fun _ _ => .error "out of memory"⟩

/-- A command line without variables. -/
def Invocation.plain (args : List String) : Invocation := ⟨args, fun _ => none, .telling⟩

/-- Four command lines: one asks for help, one has a bad balance, and two name the same file. The
last of them would get no hash. -/
def fourRuns : List Invocation :=
  [.plain ["--db", "ledger.db", "-h"], .plain ["-b", "0"],
    .plain ["-d", "ledger.db", "-b", " 5 "],
    { Invocation.plain ["--db", "./ledger.db"] with hasher := .failing }]

/-- The third of the command lines seeds the file, and the fourth leaves it as it is. -/
theorem file_is_seeded_once :
    (Disk.empty ["data"]).find? ["data", "ledger.db"] = none ∧
    (∀ r ∈ fourRuns, r.IsInOrder → r.Reaches (.empty ["data"]) ["data", "ledger.db"]) ∧
    ∃ b : Books, b.Populated .telling ⟨500⟩ users products ∧ ∃ db,
      (runAll fourRuns (.empty ["data"])).find? ["data", "ledger.db"] = some db ∧
        db.tables = tablesOf b := by
  have absent : (Disk.empty ["data"]).find? ["data", "ledger.db"] = none := rfl
  have help : ¬ (Invocation.plain ["--db", "ledger.db", "-h"]).IsInOrder :=
    fun inOrder => inOrder .help (by decide)
  have bad : ¬ (Invocation.plain ["-b", "0"]).IsInOrder := by
    intro inOrder
    obtain ⟨m, read⟩ := inOrder (.balance "0") (by decide)
    have refused : readBalance "0" = .error (.notPositive 0) := by decide +kernel
    rw [refused] at read
    cases read
  have good : (Invocation.plain ["-d", "ledger.db", "-b", " 5 "]).IsInOrder := by
    intro s mem
    have said : switches ["-d", "ledger.db", "-b", " 5 "] =
        [.path "ledger.db", .balance " 5 "] := by decide
    rw [Invocation.plain, said, List.mem_pair] at mem
    rcases mem with rfl | rfl
    · trivial
    · exact ⟨⟨500⟩, by decide +kernel⟩
  have loaded : Config.load (fun _ => none) = .ok .standard := by decide +kernel
  have reach : ∀ r ∈ fourRuns, r.IsInOrder →
      r.Reaches (.empty ["data"]) ["data", "ledger.db"] := by
    intro r mem inOrder
    simp only [fourRuns, List.mem_cons, List.not_mem_nil, or_false] at mem
    rcases mem with rfl | rfl | rfl | rfl
    · exact absurd inOrder help
    · exact absurd inOrder bad
    · exact ⟨.standard, "ledger.db", loaded, by decide +kernel, by decide +kernel⟩
    · exact ⟨.standard, "./ledger.db", loaded, by decide +kernel, by decide +kernel⟩
  have early : ∀ q ∈ fourRuns.take 2, ¬ q.IsInOrder := by
    intro q mem
    rcases List.mem_pair.mp mem with rfl | rfl
    · exact help
    · exact bad
  have lists : fourRuns = fourRuns.take 2 ++ .plain ["-d", "ledger.db", "-b", " 5 "] ::
      [{ Invocation.plain ["--db", "./ledger.db"] with hasher := .failing }] := rfl
  obtain ⟨-, -, b, populated, -, same⟩ :=
    (seeding_is_idempotent absent reach).2.2 _ _ _ lists early good fun _ _ => ⟨_, rfl⟩
  obtain ⟨db, found, tables⟩ := same _ (List.prefix_refl _)
  have balance : (Invocation.plain ["-d", "ledger.db", "-b", " 5 "]).balance = ⟨500⟩ := by
    decide +kernel
  refine ⟨absent, reach, b, balance ▸ populated, db, ?_, tables⟩
  rw [lists]
  exact found

end Seed

end WalletLedger
