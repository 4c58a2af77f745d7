import WalletLedger.Proofs.RoundTrips
import WalletLedger.Proofs.Services.Alike

/-!
# What leaves the process

A run of attempts gives texts away: what is written of each answer, or the body
of the error with which the attempt fails, and what the cache holds afterwards.
`emitted` lists them. `Veil.secrets` hides password hashes, and what is seen
alike through it, or any other veil, is written alike (`Veil.written_eq`). So
runs of attempts that are alike through it give the same texts away
(`emitted_alike`). An attempt that `Ignores` a part of the store is alike from
stores that are the same but for this part (`Ignores.alike`).
-/

namespace WalletLedger

/-- Through this veil no password hash is seen. -/
def Veil.secrets : Veil :=
  ⟨Wallet.withoutSecret, Codec.lawful_wallet.hidden, fun _ => rfl, fun _ => rfl⟩

/-! ## What is written -/

/-- A reply as JSON. -/
def Reply.encode : Reply → Json
  | .nothing => .null
  | .money m => Codec.encode m
  | .wallet w => Codec.encode w
  | .wallets ws => Codec.encode ws
  | .product p => Codec.encode p
  | .products ps => Codec.encode ps
  | .entry e => Codec.encode e
  | .entries es => Codec.encode es

/-- The text of the body with which a failure is reported. -/
def Failure.body? : Failure → Option String
  | .refused e => some e.body.toText
  | .aborted _ => none

/-- What is written of what an attempt comes to. -/
def written : Except Failure Json → Except (Option String) String
  | .ok data => .ok data.toText
  | .error e => .error e.body?

namespace Veil

variable (veil : Veil)

theorem encode_reply {a a' : Reply} (same : veil.reply a = veil.reply a') :
    a.encode = a'.encode := by
  have seen (a : Reply) : (veil.reply a).encode = a.encode := by
    cases a with
    | wallet w => exact veil.encode w
    | wallets ws => exact veil.encode_map ws
    | _ => rfl
  rw [← seen a, same, seen a']

/-- The body of an error that carries a wallet shows no more of it than the veil. -/
theorem body_walletAlreadyExists (w : Wallet) :
    (LedgerError.walletAlreadyExists (veil.wallet w)).body =
      (LedgerError.walletAlreadyExists w).body := by
  have body (w : Wallet) : (LedgerError.walletAlreadyExists w).body = .object [
      Json.member "code" (Json.text "WALLET_ALREADY_EXISTS"),
      Json.member "message" (Json.text ("wallet already exists for user " ++ w.userId)),
      Json.member "wallet" (Codec.encode w)] := rfl
  rw [body, body, veil.owner, veil.encode]

theorem body?_eq {e e' : Failure} (same : veil.failure e = veil.failure e') :
    e.body? = e'.body? := by
  have seen (e : Failure) : (veil.failure e).body? = e.body? := by
    unfold failure
    split
    · exact congrArg (fun j : Json => some j.toText) (veil.body_walletAlreadyExists _)
    · rfl
  rw [← seen e, same, seen e']

theorem written_eq {r r' : Except Failure Json} (same : veil.answer id r = veil.answer id r') :
    written r = written r' := by
  rcases veil.answer_eq_cases same with ⟨e, e', rfl, rfl, seen⟩ | ⟨a, _, rfl, rfl, rfl⟩
  · exact congrArg Except.error (veil.body?_eq seen)
  · rfl

end Veil

/-! ## Parts of a store -/

/-- A part of a state, which can be replaced. -/
structure Part (S U : Type) where
  get : S → U
  put : U → S → S
  put_get : ∀ s, put (get s) s = s
  get_put : ∀ u s, get (put u s) = u
  put_put : ∀ u u' s, put u (put u' s) = put u s

section Parts

variable {S U α γ : Type} (part : Part S U) {f : U → U}

/-- A state with one part changed. -/
def Part.change (f : U → U) (s : S) : S :=
  part.put (f (part.get s)) s

/-- States are the same but for what a change of a part takes away if one is the other with
such a part. -/
theorem Part.change_eq_iff {s t : S} : part.change f s = part.change f t ↔
    ∃ u, t = part.put u s ∧ f u = f (part.get s) := by
  constructor
  · intro same
    refine ⟨part.get t, ?_, ?_⟩
    · calc t = part.put (part.get t) (part.change f t) := by
            rw [Part.change, part.put_put, part.put_get]
        _ = part.put (part.get t) s := by rw [← same, Part.change, part.put_put]
    · have parts := congrArg part.get same
      rw [Part.change, Part.change, part.get_put, part.get_put] at parts
      exact parts.symm
  · rintro ⟨u, rfl, same⟩
    rw [Part.change, Part.change, part.get_put, part.put_put, same]

/-- An attempt comes to the same whatever one part of the store is, and leaves it alone. -/
def Ignores (x : Attempt (StateM (World S)) α) : Prop :=
  ∀ u w, x { w with store := part.put u w.store } =
    ((x w).1, { (x w).2 with store := part.put u (x w).2.store })

variable {part}

theorem Ignores.alike {x : Attempt (StateM (World S)) α} (h : Ignores part x) {veil : Veil}
    (view : α → γ) :
    AlikeThrough veil view (fun s t => part.change f s = part.change f t) x x := by
  intro w v shelves stores
  obtain ⟨u, other, parts⟩ := part.change_eq_iff.mp stores
  obtain ⟨s, shelf⟩ := w
  obtain ⟨t, _⟩ := v
  obtain rfl : shelf = _ := shelves
  obtain rfl : t = part.put u s := other
  have kept : (x ⟨s, shelf⟩).2.store = part.put (part.get s) (x ⟨s, shelf⟩).2.store := by
    have own := h (part.get s) ⟨s, shelf⟩
    rw [part.put_get] at own
    exact congrArg (fun r => r.2.store) own
  rw [h u ⟨s, shelf⟩]
  refine ⟨rfl, rfl, part.change_eq_iff.mpr ⟨u, rfl, ?_⟩⟩
  rw [kept, part.get_put]
  exact parts

/-- Attempts are alike, as far as they are seen without secrets, from stores that are the same
but for secrets, and leave such stores. -/
abbrev Discreet (hide : S → S) (view : α → γ) (x y : Attempt (StateM (World S)) α) : Prop :=
  AlikeThrough .secrets view (fun s t => hide s = hide t) x y

end Parts

/-- Wallets are listed by age, which is no secret. -/
theorem oldestFirst_withoutSecret (ws : List Wallet) :
    (ws.mergeSort fun v w => v.createdAt ≤ w.createdAt).map Wallet.withoutSecret =
      (ws.map Wallet.withoutSecret).mergeSort fun v w => v.createdAt ≤ w.createdAt :=
  List.map_mergeSort fun _ _ _ _ => rfl

/-! ## Texts that are given away -/

section Runs

variable {S : Type} {related : S → S → Prop} {veil : Veil} {w v : World S}

/-- The texts that attempts give away one after another: what is written of what each comes to,
and what the cache holds after it. -/
def emitted : List (Attempt (StateM (World S)) Json) → World S →
    List (Except (Option String) String × Shelf)
  | [], _ => []
  | x :: xs, w => (written (x w).1, (x w).2.shelf) :: emitted xs (x w).2

theorem emitted_alike {xs ys : List (Attempt (StateM (World S)) Json)}
    (alike : List.Forall₂ (AlikeThrough veil id related) xs ys) (shelves : w.shelf = v.shelf)
    (stores : related w.store v.store) : emitted xs w = emitted ys v := by
  induction alike generalizing w v with
  | nil => rfl
  | cons head _ ih =>
    obtain ⟨answers, shelves', stores'⟩ := head w v shelves stores
    simp only [emitted, veil.written_eq answers, ih shelves' stores', shelves']

end Runs

end WalletLedger
