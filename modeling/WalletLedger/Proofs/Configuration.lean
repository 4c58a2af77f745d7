import WalletLedger.Config
import Mathlib.Logic.Function.Basic

/-!
# What settings are read from variables

Each variable has a default text, and its text has to meet demands: the path is
not blank, the numbers can be read, two of them are not zero. The demands are
looked at in one order (`rules`), and loading comes to the first that is not met
or to the settings that the texts say (`load_eq`). So what goes wrong is exactly
known, and an absent variable is as good as one that is set to its default
(`settings_are_read_in_order`).
-/

namespace WalletLedger.Config

/-! ## Variables -/

/-- The settings that have a default text. -/
inductive Setting
  | databasePath
  | maxConnections
  | busyTimeout
  | operationTimeout
  | cacheTtl
deriving DecidableEq, Repr

namespace Setting

/-- The name of the variable of a setting. -/
def name : Setting → String
  | .databasePath => "LEDGER_DB_PATH"
  | .maxConnections => "LEDGER_DB_MAX_CONNECTIONS"
  | .busyTimeout => "LEDGER_BUSY_TIMEOUT_MS"
  | .operationTimeout => "LEDGER_OPERATION_TIMEOUT_MS"
  | .cacheTtl => "LEDGER_CACHE_TTL_SECS"

/-- The text of a setting whose variable is not set. -/
def default : Setting → String
  | .databasePath => "./ledger_dev.db"
  | .maxConnections => "5"
  | .busyTimeout => "5000"
  | .operationTimeout => "10000"
  | .cacheTtl => "300"

/-- The text of a setting. -/
def text (s : Setting) (lookup : String → Option String) : String :=
  (lookup s.name).getD s.default

theorem name_injective : Function.Injective name := by
  rintro (_ | _) (_ | _) same <;> first | rfl | exact absurd same (by decide)

theorem name_ne_redis (s : Setting) : s.name ≠ "REDIS_URL" := by
  cases s <;> decide

end Setting

/-! ## Demands -/

/-- What can be asked of the text of a setting. -/
inductive Demand
  | notBlank
  | number (bound : Nat)
  | notZero
deriving DecidableEq, Repr

namespace Demand

/-- A text meets a demand. -/
def Met (text : String) : Demand → Prop
  | .notBlank => ¬ Text.isBlankText text
  | .number bound => ∃ n, Text.Unsigned text.toList n ∧ n < bound
  | .notZero => ¬ Text.Unsigned text.toList 0

/-- The error of a setting whose text does not meet a demand. -/
def fault (s : Setting) : Demand → ConfigError
  | .notBlank => .missingRequired s.name
  | .number _ | .notZero => .invalidValue s.name

/-- Whether a text meets a demand. -/
def isMet (text : String) : Demand → Bool
  | .notBlank => !Text.isBlankText text
  | .number bound => (Text.readNat? bound text).isSome
  | .notZero => (Text.readNat? 1 text).isNone

theorem isMet_iff {text : String} {d : Demand} : d.isMet text = true ↔ d.Met text := by
  cases d with
  | notBlank => simp [isMet, Met]
  | number bound => simp [isMet, Met, Option.isSome_iff_exists, Text.readNat?_eq_some_iff]
  | notZero =>
    simp only [isMet, Met, Option.isNone_iff_eq_none, Option.eq_none_iff_forall_ne_some, ne_eq,
      Text.readNat?_eq_some_iff]
    refine ⟨fun h zero => h 0 ⟨zero, Nat.one_pos⟩, fun h n ⟨names, small⟩ => h ?_⟩
    rwa [Nat.lt_one_iff.mp small] at names

end Demand

/-- What is asked of the settings, in the order in which it is looked at: first the path, then
that the numbers can be read, and then that two of them are not zero. -/
def rules : List (Setting × Demand) :=
  [(.databasePath, .notBlank), (.maxConnections, .number UInt32.size),
    (.busyTimeout, .number UInt64.size), (.operationTimeout, .number UInt64.size),
    (.cacheTtl, .number UInt64.size), (.maxConnections, .notZero), (.operationTimeout, .notZero)]

/-- The text of a setting meets what is asked of it. -/
def Obeys (lookup : String → Option String) (rule : Setting × Demand) : Prop :=
  rule.2.Met (rule.1.text lookup)

/-- The settings are what the texts say. -/
structure Reads (lookup : String → Option String) (c : Config) : Prop where
  databasePath : c.databasePath = Setting.databasePath.text lookup
  maxConnections : Text.Unsigned (Setting.maxConnections.text lookup).toList c.maxConnections
  busyTimeout : ∃ n, Text.Unsigned (Setting.busyTimeout.text lookup).toList n ∧
    c.busyTimeout = .ofMillis n
  operationTimeout : ∃ n, Text.Unsigned (Setting.operationTimeout.text lookup).toList n ∧
    c.operationTimeout = .ofMillis n
  redisUrl : ∀ url, c.redisUrl = some url ↔
    lookup "REDIS_URL" = some url ∧ ¬ Text.isBlankText url
  cacheTtl : ∃ n, Text.Unsigned (Setting.cacheTtl.text lookup).toList n ∧
    c.cacheTtl = .ofSeconds n

/-! ## Loading -/

section Load

variable {lookup : String → Option String}

/-- The URL of the remote cache, unless it is blank. -/
def remoteUrl (lookup : String → Option String) : Option String :=
  (lookup "REDIS_URL").filter fun url => !Text.isBlankText url

/-- The settings that the texts say, where they can be read. -/
def said (lookup : String → Option String) : Config where
  databasePath := Setting.databasePath.text lookup
  maxConnections := (Text.readNat? UInt32.size (Setting.maxConnections.text lookup)).getD 0
  busyTimeout := .ofMillis
    ((Text.readNat? UInt64.size (Setting.busyTimeout.text lookup)).getD 0)
  operationTimeout := .ofMillis
    ((Text.readNat? UInt64.size (Setting.operationTimeout.text lookup)).getD 0)
  redisUrl := remoteUrl lookup
  cacheTtl := .ofSeconds ((Text.readNat? UInt64.size (Setting.cacheTtl.text lookup)).getD 0)

/-- The first rule that is broken. -/
def firstBroken? (lookup : String → Option String) : Option (Setting × Demand) :=
  rules.find? fun rule => !rule.2.isMet (rule.1.text lookup)

/-- A number that is read is zero exactly if its text names zero. -/
theorem isNone_of_read {bound n : Nat} {text : String} (read : Text.readNat? bound text = some n) :
    (Text.readNat? 1 text).isNone = !decide (n = 0) := by
  obtain ⟨names, below⟩ := Text.readNat?_eq_some_iff.mp read
  by_cases zero : n = 0
  · subst zero
    rw [Text.readNat?_eq_some_iff.mpr ⟨names, Nat.one_pos⟩]
    rfl
  · rcases found : Text.readNat? 1 text with _ | m
    · simp [zero]
    · obtain ⟨same, small⟩ := Text.readNat?_eq_some_iff.mp found
      have again : Text.readNat? bound text = some m :=
        Text.readNat?_eq_some_iff.mpr ⟨same, by omega⟩
      have : n = m := Option.some.inj (read.symm.trans again)
      omega

/-- The number of a setting. -/
def read (lookup : String → Option String) (s : Setting) (bound : Nat) : Except ConfigError Nat :=
  number lookup bound s.name s.default

theorem read_eq (s : Setting) (bound : Nat) : read lookup s bound =
    match Text.readNat? bound (s.text lookup) with
    | some n => .ok n
    | none => .error (.invalidValue s.name) := rfl

/-- Loading looks at one setting after another. -/
theorem load_unfold (lookup : String → Option String) : load lookup =
    if Text.isBlankText (Setting.databasePath.text lookup) then
      .error (.missingRequired Setting.databasePath.name)
    else (do
      let connections ← read lookup .maxConnections UInt32.size
      let busy ← read lookup .busyTimeout UInt64.size
      let operation ← read lookup .operationTimeout UInt64.size
      let ttl ← read lookup .cacheTtl UInt64.size
      if connections = 0 then .error (.invalidValue Setting.maxConnections.name)
      else if operation = 0 then .error (.invalidValue Setting.operationTimeout.name)
      else .ok ⟨Setting.databasePath.text lookup, connections, .ofMillis busy,
        .ofMillis operation, remoteUrl lookup, .ofSeconds ttl⟩) := by
  unfold load
  simp only [bind, Except.bind]
  rfl

/-- Loading comes to the first rule that is broken, or to what the texts say. -/
theorem load_eq (lookup : String → Option String) :
    load lookup = match firstBroken? lookup with
      | some (s, demand) => .error (demand.fault s)
      | none => .ok (said lookup) := by
  rw [load_unfold, firstBroken?, rules, said]
  simp only [read_eq, List.find?, Demand.isMet, bind, Except.bind]
  rcases Text.isBlankText (Setting.databasePath.text lookup) with _ | _
  case true => rfl
  rcases connections : Text.readNat? UInt32.size (Setting.maxConnections.text lookup) with _ | m
  · rfl
  rcases Text.readNat? UInt64.size (Setting.busyTimeout.text lookup) with _ | busy
  · rfl
  rcases operation : Text.readNat? UInt64.size (Setting.operationTimeout.text lookup) with _ | n
  · rfl
  rcases Text.readNat? UInt64.size (Setting.cacheTtl.text lookup) with _ | ttl
  · rfl
  rw [isNone_of_read connections, isNone_of_read operation]
  by_cases one : m = 0
  · simp [one, Demand.fault]
  by_cases other : n = 0
  · simp [one, other, Demand.fault]
  · simp [one, other]

/-- Nothing but the texts and the URL matters to what loading comes to. -/
theorem load_congr {other : String → Option String}
    (texts : ∀ s : Setting, s.text lookup = s.text other)
    (urls : remoteUrl lookup = remoteUrl other) : load lookup = load other := by
  simp only [load_eq, firstBroken?, said, texts, urls]

theorem firstBroken?_eq_none_iff :
    firstBroken? lookup = none ↔ ∀ rule ∈ rules, Obeys lookup rule := by
  simp only [firstBroken?, List.find?_eq_none, Bool.not_eq_true', Bool.not_eq_false,
    Demand.isMet_iff, Obeys]

theorem firstBroken?_eq_some_iff {rule : Setting × Demand} : firstBroken? lookup = some rule ↔
    ∃ before after, rules = before ++ rule :: after ∧ (∀ r ∈ before, Obeys lookup r) ∧
      ¬ Obeys lookup rule := by
  simp only [firstBroken?, List.find?_eq_some_iff_append, Bool.not_not, Demand.isMet_iff,
    ← Bool.not_eq_true, Bool.not_eq_true', Obeys]
  constructor
  · rintro ⟨broken, before, after, eq, met⟩
    exact ⟨before, after, eq, met, broken⟩
  · rintro ⟨before, after, eq, met, broken⟩
    exact ⟨broken, before, after, eq, met⟩

/-- Texts that meet all demands are read. -/
theorem reads_said (obeys : ∀ rule ∈ rules, Obeys lookup rule) : Reads lookup (said lookup) := by
  have named {s : Setting} {bound : Nat} (mem : (s, .number bound) ∈ rules) :
      Text.Unsigned (s.text lookup).toList ((Text.readNat? bound (s.text lookup)).getD 0) := by
    obtain ⟨n, names, below⟩ : ∃ n, Text.Unsigned (s.text lookup).toList n ∧ n < bound :=
      obeys _ mem
    rwa [Text.readNat?_eq_some_iff.mpr ⟨names, below⟩]
  refine ⟨rfl, named (by simp [rules]), ⟨_, named (by simp [rules]), rfl⟩,
    ⟨_, named (by simp [rules]), rfl⟩, fun url => ?_, ⟨_, named (by simp [rules]), rfl⟩⟩
  show remoteUrl lookup = some url ↔ _
  simp [remoteUrl, Option.filter_eq_some_iff]

/-- The texts say one thing only. -/
theorem Reads.unique {c d : Config} (h : Reads lookup c) (h' : Reads lookup d) : c = d := by
  obtain ⟨busy, busyNamed, busyTimeout⟩ := h.busyTimeout
  obtain ⟨busy', busyNamed', busyTimeout'⟩ := h'.busyTimeout
  obtain ⟨operation, operationNamed, operationTimeout⟩ := h.operationTimeout
  obtain ⟨operation', operationNamed', operationTimeout'⟩ := h'.operationTimeout
  obtain ⟨ttl, ttlNamed, cacheTtl⟩ := h.cacheTtl
  obtain ⟨ttl', ttlNamed', cacheTtl'⟩ := h'.cacheTtl
  obtain rfl := busyNamed.unique busyNamed'
  obtain rfl := operationNamed.unique operationNamed'
  obtain rfl := ttlNamed.unique ttlNamed'
  have urls : c.redisUrl = d.redisUrl :=
    Option.ext fun url => (h.redisUrl url).trans (h'.redisUrl url).symm
  obtain ⟨_, _, _, _, _, _⟩ := c
  obtain ⟨_, _, _, _, _, _⟩ := d
  cases h.databasePath.trans h'.databasePath.symm
  cases h.maxConnections.unique h'.maxConnections
  cases busyTimeout.trans busyTimeout'.symm
  cases operationTimeout.trans operationTimeout'.symm
  cases cacheTtl.trans cacheTtl'.symm
  cases urls
  rfl

theorem load_eq_ok_iff {c : Config} :
    load lookup = .ok c ↔ (∀ rule ∈ rules, Obeys lookup rule) ∧ Reads lookup c := by
  rw [load_eq, ← firstBroken?_eq_none_iff]
  rcases broken : firstBroken? lookup with _ | rule
  · have read := reads_said (firstBroken?_eq_none_iff.mp broken)
    refine ⟨fun h => ⟨rfl, (Except.ok.inj h) ▸ read⟩, fun ⟨_, reads⟩ => ?_⟩
    exact congrArg Except.ok (read.unique reads)
  · simp

theorem load_eq_error_iff {e : ConfigError} : load lookup = .error e ↔
    ∃ s demand, firstBroken? lookup = some (s, demand) ∧ e = demand.fault s := by
  rw [load_eq]
  rcases firstBroken? lookup with _ | ⟨s, demand⟩
  · simp
  · simp only [Except.error.injEq, Option.some.injEq, Prod.mk.injEq]
    exact ⟨fun same => ⟨s, demand, ⟨rfl, rfl⟩, same.symm⟩, by rintro ⟨_, _, ⟨rfl, rfl⟩, rfl⟩; rfl⟩

end Load

/-! ## All sources of variables -/

/-- A source of variables in which one is not set. -/
def without (lookup : String → Option String) (name : String) : String → Option String :=
  Function.update lookup name none

/-- A source of variables in which one is set. -/
def withText (lookup : String → Option String) (name text : String) : String → Option String :=
  Function.update lookup name (some text)

/-- Whatever the variables say, settings are loaded exactly if all rules are obeyed, and then
they are what the texts say. Otherwise the error is that of the first rule that is broken. A
variable that is not set counts as its default text, and the URL as any blank text. -/
theorem settings_are_read_in_order (lookup : String → Option String) :
    ((∃ c, load lookup = .ok c) ↔ ∀ rule ∈ rules, Obeys lookup rule) ∧
    (∀ c, load lookup = .ok c → Reads lookup c) ∧
    (∀ e, load lookup = .error e ↔ ∃ before s demand after,
      rules = before ++ (s, demand) :: after ∧ (∀ rule ∈ before, Obeys lookup rule) ∧
      ¬ Obeys lookup (s, demand) ∧ e = demand.fault s) ∧
    (∀ s : Setting, load (without lookup s.name) = load (withText lookup s.name s.default)) ∧
    ∀ blank, Text.isBlankText blank →
      load (without lookup "REDIS_URL") = load (withText lookup "REDIS_URL" blank) := by
  refine ⟨⟨fun ⟨c, loaded⟩ => (load_eq_ok_iff.mp loaded).1, fun obeys => ?_⟩,
    fun c loaded => (load_eq_ok_iff.mp loaded).2, fun e => ?_, fun s => ?_, fun blank isBlank => ?_⟩
  · exact ⟨said lookup, load_eq_ok_iff.mpr ⟨obeys, reads_said obeys⟩⟩
  · rw [load_eq_error_iff]
    constructor
    · rintro ⟨s, demand, broken, rfl⟩
      obtain ⟨before, after, eq, met, unmet⟩ := firstBroken?_eq_some_iff.mp broken
      exact ⟨before, s, demand, after, eq, met, unmet, rfl⟩
    · rintro ⟨before, s, demand, after, eq, met, unmet, rfl⟩
      exact ⟨s, demand, firstBroken?_eq_some_iff.mpr ⟨before, after, eq, met, unmet⟩, rfl⟩
  · refine load_congr (fun t => ?_) ?_
    · by_cases same : t = s
      · subst same
        simp [Setting.text, without, withText]
      · have apart : t.name ≠ s.name := fun h => same (Setting.name_injective h)
        simp [Setting.text, without, withText, apart]
    · simp [remoteUrl, without, withText, (Setting.name_ne_redis s).symm]
  · refine load_congr (fun t => ?_) ?_
    · simp [Setting.text, without, withText, Setting.name_ne_redis t]
    · simp [remoteUrl, without, withText, isBlank, Option.filter]

/-- Without variables the settings are the standard ones. -/
example : load (fun _ => none) = .ok standard := by
  have met : firstBroken? (fun _ => none) = none := by decide +kernel
  rw [load_eq, met]
  exact congrArg Except.ok (by decide +kernel)

/-- A path with blanks and a signed number, beside a URL that is blank. -/
def oddVariables (name : String) : Option String :=
  [("LEDGER_DB_PATH", " a b.db"), ("LEDGER_DB_MAX_CONNECTIONS", "+007"),
    ("REDIS_URL", " ")].lookup name

/-- A pool without connections, and a time of 2^64 seconds. -/
def brokenVariables (name : String) : Option String :=
  [("LEDGER_DB_MAX_CONNECTIONS", "0"),
    ("LEDGER_CACHE_TTL_SECS", "18446744073709551616")].lookup name

/-- The path is read as it stands. The time is named before the connections, which may not be
zero, because all numbers are read first. -/
theorem odd_settings_are_read :
    (∃ c, load oddVariables = .ok c ∧ c.databasePath = " a b.db" ∧ c.maxConnections = 7 ∧
      c.redisUrl = none ∧ Reads oddVariables c) ∧
    (∃ before s demand after, rules = before ++ (s, demand) :: after ∧
      (∀ rule ∈ before, Obeys brokenVariables rule) ∧ ¬ Obeys brokenVariables (s, demand) ∧
      ConfigError.invalidValue "LEDGER_CACHE_TTL_SECS" = demand.fault s) ∧
    Text.isBlankText " " ∧
      load (without oddVariables "REDIS_URL") = load (withText oddVariables "REDIS_URL" " ") := by
  have met : firstBroken? oddVariables = none := by decide +kernel
  have unmet : firstBroken? brokenVariables = some (.cacheTtl, .number UInt64.size) := by
    decide +kernel
  have loaded : load oddVariables = .ok (said oddVariables) := by rw [load_eq, met]
  have refused : load brokenVariables = .error (.invalidValue "LEDGER_CACHE_TTL_SECS") := by
    rw [load_eq, unmet]
    rfl
  refine ⟨⟨_, loaded, ?_⟩, ((settings_are_read_in_order _).2.2.1 _).mp refused, by decide, ?_⟩
  · refine ⟨by decide +kernel, by decide +kernel, by decide +kernel, ?_⟩
    exact (settings_are_read_in_order _).2.1 _ loaded
  · exact (settings_are_read_in_order oddVariables).2.2.2.2 " " (by decide)

end WalletLedger.Config
