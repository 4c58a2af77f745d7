import WalletLedger.Proofs.Database.Secrets
import WalletLedger.Proofs.Bounds
import WalletLedger.Proofs.Memory.Secrets

/-!
# Secrets stay inside

In two runs of the same steps, in which the users who are registered differ in
their password hashes, the same texts leave the process: what is written of
answers, the bodies of errors, and what is put into the cache
(`secrets_are_kept`). It holds over a memory store and over a database. The body
of a storage fault does not depend on its detail either.
-/

namespace WalletLedger

/-- What is written of an outcome. -/
def Outcome.written (o : Outcome Reply) : Json :=
  o.encode Reply.encode

section Services

variable {S : Type} {hide : S → S} {s : Services (StateM (World S))}

/-- Of what is served over a discreet store, the same is written. -/
theorem serve_written
    (store : ∀ limit call, Discreet hide Veil.secrets.reply (s.store.perform limit call)
      (s.store.perform limit call))
    (cache : ∃ c : Cache (StateM Shelf), s.cache = c.map World.onShelf) (r : Request) :
    Discreet hide id (Outcome.written <$> s.serve r) (Outcome.written <$> s.serve r) := by
  obtain ⟨c, cached⟩ := cache
  have services : AlikeServicesThrough .secrets (fun t t' => hide t = hide t') s s :=
    ⟨fun limit call _ => store limit call, ⟨c, cached, cached⟩, rfl⟩
  refine (serve_alikeThrough services r).map fun o o' seen => ?_
  obtain ⟨status, data⟩ := o
  obtain ⟨status', data'⟩ := o'
  obtain ⟨rfl, same⟩ := Outcome.mk.inj seen
  exact congrArg (fun data => Outcome.encode (fun d => d) ⟨status, data⟩)
    (Veil.secrets.encode_reply same)

/-- Of what a discreet call answers, the same is written. -/
theorem perform_written {x : Attempt (StateM (World S)) Reply}
    (h : Discreet hide Veil.secrets.reply x x) :
    Discreet hide id (Reply.encode <$> x) (Reply.encode <$> x) := by
  refine AlikeThrough.map (fun a a' seen => ?_) h
  exact Veil.secrets.encode_reply seen

end Services

/-! ## In memory -/

namespace Memory

/-- A step of a run over a memory store: of the services or of the store, or of somebody who arms
a fault or interferes with the cache. -/
inductive Step
  | request (pace : Pace) (cache : Cache (StateM Shelf)) (limit : Duration) (request : Request)
  | call (pace : Pace) (limit : Option Duration) (call : StoreCall)
  | register (user : User)
  | arm (fault : FaultPoint)
  | interfere (change : Shelf → Shelf)

namespace Step

/-- What a step does; its answer is what is written of it. -/
def attempt : Step → Attempt (StateM (World Memory)) Json
  | request pace cache limit r =>
    Outcome.written <$> Services.serve ⟨store pace, cache.map World.onShelf, limit⟩ r
  | call pace limit c => Reply.encode <$> (store pace).perform limit c
  | register user => (fun _ => .null) <$>
      ((insertUser user).alone : Attempt (StateM (World Memory)) Unit)
  | arm fault => fun w => (.ok .null, ((Memory.arm fault).alone w).2)
  | interfere change => fun w => (.ok .null, { w with shelf := change w.shelf })

/-- Two steps are the same but for the password hash of a user who is registered. -/
inductive SameButSecret : Step → Step → Prop
  | same (step : Step) : SameButSecret step step
  | register {user user' : User} (same : user.withoutSecret = user'.withoutSecret) :
    SameButSecret (register user) (register user')

theorem SameButSecret.discreet {step step' : Step} (h : SameButSecret step step') :
    Discreet withoutSecrets id step.attempt step'.attempt := by
  cases h with
  | same step =>
    cases step with
    | request pace cache limit r => exact serve_written (fun _ _ => perform_discreet) ⟨cache, rfl⟩ r
    | call pace limit c => exact perform_written perform_discreet
    | register user => exact (insertUser_discreet rfl).map fun _ _ _ => rfl
    | arm fault =>
      intro w v shelves stores
      refine ⟨rfl, shelves, ?_⟩
      exact congrArg (fun m : Memory => { m with fault := some fault }) stores
    | interfere change => exact fun _ _ shelves stores => ⟨rfl, congrArg change shelves, stores⟩
  | register same => exact (insertUser_discreet same).map fun _ _ _ => rfl

end Step

end Memory

/-! ## In a database -/

namespace Database

/-- A step of a run over a database: of the services or of the store, or of somebody who puts
guards or connections in the way or interferes with the cache. -/
inductive Step
  | request (course : Course) (cache : Cache (StateM Shelf)) (limit : Duration) (request : Request)
  | call (course : Course) (limit : Option Duration) (call : StoreCall)
  | register (user : NewUser)
  | surround (guards : List Guard) (enforced : Bool) (pool : Pool)
  | interfere (change : Shelf → Shelf)

namespace Step

/-- What a step does; its answer is what is written of it. -/
def attempt : Step → Attempt (StateM (World Database)) Json
  | request course cache limit r => Outcome.written <$> Services.serve
      ⟨(storeOn course).map World.onStore, cache.map World.onShelf, limit⟩ r
  | call course limit c => Reply.encode <$> ((storeOn course).map World.onStore).perform limit c
  | register user => Codec.encode <$>
      (World.onStore _ (answer (insertUser user)) : Attempt (StateM (World Database)) User)
  | surround guards enforced pool => fun w =>
    (.ok .null, { w with store := { w.store with guards, enforced, pool } })
  | interfere change => fun w => (.ok .null, { w with shelf := change w.shelf })

/-- Two steps are the same but for the password hash of a user who is registered. -/
inductive SameButSecret : Step → Step → Prop
  | same (step : Step) : SameButSecret step step
  | register {user user' : NewUser} (same : user.withoutSecret = user'.withoutSecret) :
    SameButSecret (register user) (register user')

theorem register_discreet {user user' : NewUser} (same : user.withoutSecret = user'.withoutSecret) :
    Discreet withoutSecrets id (register user).attempt (register user').attempt := by
  refine (answer_discreet (insertUser_discreet same)).map fun u u' seen => ?_
  exact (Codec.lawful_user.hidden u).symm.trans ((congrArg Codec.encode seen).trans
    (Codec.lawful_user.hidden u'))

theorem SameButSecret.discreet {step step' : Step} (h : SameButSecret step step') :
    Discreet withoutSecrets id step.attempt step'.attempt := by
  cases h with
  | same step =>
    cases step with
    | request course cache limit r =>
      exact serve_written (perform_discreet course) ⟨cache, rfl⟩ r
    | call course limit c => exact perform_written (perform_discreet course limit c)
    | register user => exact register_discreet rfl
    | surround guards enforced pool =>
      intro w v shelves stores
      refine ⟨rfl, shelves, ?_⟩
      exact congrArg (fun db : Database => { db with guards, enforced, pool }) stores
    | interfere change => exact fun _ _ shelves stores => ⟨rfl, congrArg change shelves, stores⟩
  | register same => exact register_discreet same

end Step

end Database

/-! ## Two runs -/

/-- Two runs begin with equal caches and with stores that are the same but for password hashes,
and take the same steps but for the hashes of the users that they register. Then they give the
same texts away, whatever the caches do; one may keep every text that was ever put into it. And
two storage faults have the same body, whatever their details are. -/
theorem secrets_are_kept :
    (∀ {steps steps' : List Memory.Step} {w w' : World Memory},
      List.Forall₂ Memory.Step.SameButSecret steps steps' → w.shelf = w'.shelf →
      w.store.withoutSecrets = w'.store.withoutSecrets →
      emitted (steps.map Memory.Step.attempt) w = emitted (steps'.map Memory.Step.attempt) w') ∧
    (∀ {steps steps' : List Database.Step} {w w' : World Database},
      List.Forall₂ Database.Step.SameButSecret steps steps' → w.shelf = w'.shelf →
      w.store.withoutSecrets = w'.store.withoutSecrets →
      emitted (steps.map Database.Step.attempt) w =
        emitted (steps'.map Database.Step.attempt) w') ∧
    ∀ detail detail' : String,
      (LedgerError.storage detail).body.toText = (LedgerError.storage detail').body.toText := by
  refine ⟨fun {steps steps' w w'} same shelves stores => ?_,
    fun {steps steps' w w'} same shelves stores => ?_, fun _ _ => rfl⟩
  · have discreet := same.imp fun _ _ => Memory.Step.SameButSecret.discreet
    exact emitted_alike (List.forall₂_map_left_iff.mpr (List.forall₂_map_right_iff.mpr discreet))
      shelves stores
  · have discreet := same.imp fun _ _ => Database.Step.SameButSecret.discreet
    exact emitted_alike (List.forall₂_map_left_iff.mpr (List.forall₂_map_right_iff.mpr discreet))
      shelves stores

/-- A user with some hash registers, has a wallet made, has all wallets listed, and asks for
another wallet. -/
def Memory.Step.welcome (hash : String) : List Memory.Step :=
  [.register { ada with passwordHash := hash }, .request .unlimited .shelf ⟨0⟩ (.initWallet "u"),
    .request .unlimited .shelf ⟨0⟩ .listWallets, .request .unlimited .shelf ⟨0⟩ (.initWallet "u")]

/-- The same in a database, in which the user is given an identifier. -/
def Database.Step.welcome (hash : String) : List Database.Step :=
  [.register ⟨"ada", "ada@example.com", hash, User.userRole⟩,
    .request .smooth .shelf ⟨0⟩ (.initWallet (Uuid.numbered 1)),
    .request .smooth .shelf ⟨0⟩ .listWallets,
    .request .smooth .shelf ⟨0⟩ (.initWallet (Uuid.numbered 1))]

/-- Two runs in which a user registers with one hash or the other. -/
theorem hash_of_welcomed_user_is_kept :
    emitted ((Memory.Step.welcome "one").map Memory.Step.attempt) ⟨.empty, .empty⟩ =
      emitted ((Memory.Step.welcome "other").map Memory.Step.attempt) ⟨.empty, .empty⟩ ∧
    emitted ((Database.Step.welcome "one").map Database.Step.attempt)
        ⟨.opening [] .start [] true ⟨4, ⟨0⟩, true, false⟩, .empty⟩ =
      emitted ((Database.Step.welcome "other").map Database.Step.attempt)
        ⟨.opening [] .start [] true ⟨4, ⟨0⟩, true, false⟩, .empty⟩ ∧
    (LedgerError.storage "disk full").body.toText = (LedgerError.storage "no disk").body.toText :=
  ⟨secrets_are_kept.1 (.cons (.register rfl) (.cons (.same _) (.cons (.same _)
      (.cons (.same _) .nil)))) rfl rfl,
    secrets_are_kept.2.1 (.cons (.register rfl) (.cons (.same _) (.cons (.same _)
      (.cons (.same _) .nil)))) rfl rfl,
    secrets_are_kept.2.2 "disk full" "no disk"⟩

end WalletLedger
