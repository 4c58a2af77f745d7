import WalletLedger.Seed

/-!
# The command line

Seeds a development database and writes what was done. The directory starts
without databases, and none is kept, so no password is hashed: the password
with its salt stands for the hash.
-/

open WalletLedger

/-- The variables that the configuration is read from. -/
def configVariables : List String :=
  ["LEDGER_DB_PATH", "LEDGER_DB_MAX_CONNECTIONS", "LEDGER_BUSY_TIMEOUT_MS",
   "LEDGER_OPERATION_TIMEOUT_MS", "LEDGER_CACHE_TTL_SECS", "REDIS_URL"]

def main (args : List String) : IO UInt32 := do
  let values ← configVariables.mapM fun name => do return (name, ← IO.getEnv name)
  let hasher : Seed.Hasher := ⟨id, fun password salt => .ok (salt ++ password)⟩
  let report := (Seed.run hasher args (fun name => (values.lookup name).join) (.empty [])).1
  report.output.forM IO.println
  report.errors.forM IO.eprintln
  return report.exit.toUInt32
