import WalletLedger.Cache.Remote
import WalletLedger.Database.Intervention
import WalletLedger.Main
import WalletLedger.Proofs.Amounts
import WalletLedger.Proofs.Atomicity
import WalletLedger.Proofs.Backstops
import WalletLedger.Proofs.Books.Isolation
import WalletLedger.Proofs.Catalog
import WalletLedger.Proofs.Coherence
import WalletLedger.Proofs.Commutation
import WalletLedger.Proofs.Configuration
import WalletLedger.Proofs.Contention
import WalletLedger.Proofs.Database.Cutoffs
import WalletLedger.Proofs.Database.Files
import WalletLedger.Proofs.Database.Mirrors
import WalletLedger.Proofs.Database.Registrations
import WalletLedger.Proofs.Database.Secrets
import WalletLedger.Proofs.Dates
import WalletLedger.Proofs.Deadlines
import WalletLedger.Proofs.Deletion
import WalletLedger.Proofs.Entries
import WalletLedger.Proofs.Equivalence
import WalletLedger.Proofs.Faults
import WalletLedger.Proofs.Identity
import WalletLedger.Proofs.Isolation
import WalletLedger.Proofs.Ledger
import WalletLedger.Proofs.Linearization
import WalletLedger.Proofs.Listings
import WalletLedger.Proofs.Memory.Secrets
import WalletLedger.Proofs.Movements
import WalletLedger.Proofs.Overruns
import WalletLedger.Proofs.Reconciliation
import WalletLedger.Proofs.Regularity
import WalletLedger.Proofs.Rejections
import WalletLedger.Proofs.RoundTrips
import WalletLedger.Proofs.Schema
import WalletLedger.Proofs.Secrets
import WalletLedger.Proofs.Seed.CommandLine
import WalletLedger.Proofs.Seed.OpeningBalances
import WalletLedger.Proofs.Seed.Population
import WalletLedger.Proofs.Seed.Scripts
import WalletLedger.Proofs.Seed.Steps
import WalletLedger.Proofs.Seeding
import WalletLedger.Proofs.Services.Fulfilment
import WalletLedger.Proofs.Services.Secrets
import WalletLedger.Proofs.Stocks
import WalletLedger.Proofs.Visibility
import WalletLedger.Proofs.Wallets
