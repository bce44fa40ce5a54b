import EnvProfiles.Command.Edit
import EnvProfiles.Command.Environment
import EnvProfiles.Command.Stored
import EnvProfiles.Proofs.Stores.Sessions
import EnvProfiles.Proofs.Transfer.Export
import EnvProfiles.Rendering

/-!
# Operations on an Open Store

What can be done in a session, directly or by a command, and what it leaves of
the store. An edit touches the keys that it names: edits that name no key in
common can be done in either order, with the same answers and the same texts in
the end. An edit that fails leaves a session as it was, and so does whatever
only reads.

An export is another matter, since it writes files, and nothing keeps it from
the file in which the store is kept. A database at `out/base.yml` with a profile
`base` is lost when the profiles are exported to `out`. What can be said is that
an export leaves the store alone if it leaves the files of the store alone.

## Main definitions

* `Edit`, `Reading`, `Operation`: What can be done in a session.
* `Session.perform`, `Session.after`: What is answered, and the session after it.
* `Session.Spares`: An operation leaves the files of the store alone.

## Theorems

* `Session.perform_edit_comm`: Edits that name no key in common commute.
* `Session.perform_edit_of_error`, `Session.perform_read`: What leaves a session
  as it was.
* `Session.perform_exportAll_store`: An export that leaves the store alone.
* `Session.edits_local`: All of this, wherever a run of operations leads.
* `Session.exportAll_overwrites`: The store that an export destroys.
-/

namespace EnvProfiles

/-- What is done to the texts of a store, directly or by a command. -/
inductive Edit where
  | change (change : Change)
  /-- What became of a text that was edited is stored. -/
  | keep (key before after : String)
  | remove (key : String)
  | rename (key newKey : String)
deriving DecidableEq, Repr

/-- What is read from a store, directly or by a command. -/
inductive Reading where
  | get (key : String)
  | keys
  | entries
  | print (key : String)
  | listKeys
  | resolve (key : String)
  | resolveAll (keys : List String)
  | render (form : Rendering) (keys : List String)
deriving DecidableEq, Repr

/-- What can be done in a session. -/
inductive Operation where
  | edit (edit : Edit)
  | read (reading : Reading)
  | exportAll (outdir : String) (settings : ExportSettings)
deriving DecidableEq, Repr

/-- What an operation answers that succeeds. -/
inductive Success where
  | done
  | verdict (verdict : Verdict)
  | text (found : Option String)
  | keys (keys : List String)
  | entries (entries : List (String × String))
  | printed (output : String)
  | resolution (resolution : Resolution)
  | environment (vars : Dict)
  | written (count : Nat)
deriving DecidableEq, Repr

namespace Edit

/-- The keys that an edit names. -/
def keys : Edit → List String
  | change c => c.keys
  | keep key _ _ => [key]
  | remove key => [key]
  | rename key newKey => [key, newKey]

/-- Carries out an edit, which may fail. -/
def apply {σ : Type} [KeyStore σ] (store : σ) : Edit → Except Fault (Success × σ)
  | change c => ((c.apply store).mapError .store).map fun store => (.done, store)
  | keep key before after =>
    (Command.keep store key before after).map fun kept => (.verdict kept.1, kept.2)
  | remove key => (Command.remove store key).map fun store => (.done, store)
  | rename key newKey => (Command.rename store key newKey).map fun store => (.done, store)

/-- The change that an edit makes. A text that was edited and is the same as before is none. -/
def change? : Edit → Option Change
  | change c => some c
  | keep key before after => if before = after then none else some (.set key after)
  | remove key => some (.delete key)
  | rename key newKey => some (.rename key newKey)

/-- What an edit answers that succeeds. -/
def success : Edit → Success
  | keep key before after =>
    .verdict <| if before = after then .unchanged
      else match Document.parse key after with
        | .ok _ => .saved
        | .error _ => .savedUnreadable
  | _ => .done

/-- What an edit answers, by what its change is answered. -/
def answer (e : Edit) : Response → Except Fault Success
  | .refused fault => .error (.store fault)
  | _ => .ok e.success

theorem keys_eq {e : Edit} {c : Change} (h : e.change? = some c) : c.keys = e.keys := by
  cases e with
  | change c' => cases h; rfl
  | remove key => cases h; rfl
  | rename key newKey => cases h; rfl
  | keep key before after =>
      rw [change?] at h
      split at h
      next => exact nomatch h
      next => cases h; rfl

variable {σ : Type} [KeyStore σ]

theorem apply_of_none {e : Edit} (h : e.change? = none) (store : σ) :
    e.apply store = .ok (e.success, store) := by
  cases e with
  | change c => exact nomatch h
  | remove key => exact nomatch h
  | rename key newKey => exact nomatch h
  | keep key before after =>
      rw [change?] at h
      split at h
      next hsame => rw [apply, Command.keep, success, if_pos hsame, if_pos hsame]; rfl
      next => exact nomatch h

/-- What an edit comes to is what its change comes to. -/
theorem apply_of_some {e : Edit} {c : Change} (h : e.change? = some c) (store : σ) :
    e.apply store = ((c.apply store).mapError .store).map fun store => (e.success, store) := by
  cases e with
  | change c' => cases h; rfl
  | remove key => cases h; rfl
  | rename key newKey => cases h; rfl
  | keep key before after =>
      rw [change?] at h
      split at h
      next => exact nomatch h
      next hsame =>
        cases h
        rw [apply, Command.keep, success, if_neg hsame, if_neg hsame, Change.apply]
        cases KeyStore.set store key after <;> rfl

end Edit

/-- What is answered to a reading. -/
def Reading.answer {σ : Type} [KeyStore σ] (store : σ) : Reading → Except Fault Success
  | get key => ((KeyStore.get? store key).mapError .store).map .text
  | keys => ((KeyStore.keys store).mapError .store).map .keys
  | entries => ((KeyStore.entries store).mapError .store).map .entries
  | print key => (Command.print store key).map .printed
  | listKeys => (Command.listKeys store).map .printed
  | resolve key => (Command.resolution store key).map .resolution
  | resolveAll wanted => (Command.environment store wanted).map .environment
  | render form wanted =>
    (Command.environment store wanted).map fun vars => .printed (form.render vars)

namespace Session

variable {σ : Type} [KeyStore σ] [OpenStore σ]

open OpenStore ContentStore

/-- What an operation answers, and the session after it. -/
def perform (s : Session σ) : Operation → Except Fault Success × Session σ
  | .edit e =>
    match e.apply s.store with
    | .ok (success, store) => (.ok success, resume store s.files)
    | .error fault => (.error fault, resume s.store s.files)
  | .read r => (r.answer s.store, resume s.store s.files)
  | .exportAll outdir settings =>
    let (written, files) := Command.exportAll s.store outdir settings s.files
    (written.map .written, resume s.store files)

/-- The session after a run of operations. -/
def after (s : Session σ) (run : List Operation) : Session σ :=
  run.foldl (fun s op => (s.perform op).2) s

variable (s : Session σ)

/-! ### Edits -/

theorem perform_edit_of_none {e : Edit} (h : e.change? = none) :
    s.perform (.edit e) = (.ok e.success, s) := by
  rw [perform, Edit.apply_of_none h]
  exact congrArg _ s.resume_self

theorem perform_edit_of_some {e : Edit} {c : Change} (h : e.change? = some c) :
    s.perform (.edit e) =
      (e.answer ((Request.change c).answer s.store).1, s.change c) := by
  rw [perform, Edit.apply_of_some h, change, Change.next]
  cases happly : c.apply s.store with
  | ok changed => rw [Request.answer_of_ok happly]; rfl
  | error fault => rw [Request.answer_of_error happly]; rfl

/-- An edit that fails leaves a session as it was. -/
theorem perform_edit_of_error {e : Edit} {fault : Fault}
    (h : (s.perform (.edit e)).1 = .error fault) : (s.perform (.edit e)).2 = s := by
  unfold perform at h ⊢
  dsimp only at h ⊢
  split at h
  next => exact nomatch h
  next => exact s.resume_self

theorem perform_read (r : Reading) : (s.perform (.read r)).2 = s := s.resume_self

/-- Changes that name no key in common can be done in either order: each is answered as it is when
it comes first, and the texts are the same in the end. -/
theorem change_comm (hdistinct : s.KeysDistinct) {a b : Change}
    (hdisjoint : a.keys.Disjoint b.keys) :
    ((s.change a).change b).entries = ((s.change b).change a).entries ∧
      ((Request.change a).answer (s.change b).store).1 =
        ((Request.change a).answer s.store).1 ∧
      ((Request.change b).answer (s.change a).store).1 =
        ((Request.change b).answer s.store).1 := by
  -- Of a store that can be changed, both orders are told from the contents. Any other stays.
  rcases holds_or_frozen hdistinct with ⟨c, hc⟩ | hfrozen
  · -- The contents leave one answer and one successor, so the two ways meet.
    obtain ⟨ca, ha, hca⟩ := s.holds_change hc a
    obtain ⟨cb, hb, hcb⟩ := s.holds_change hc b
    obtain ⟨cab, hab, hcab⟩ := (s.change a).holds_change hca b
    obtain ⟨cba, hba, hcba⟩ := (s.change b).holds_change hcb a
    obtain ⟨both, hb', ha'⟩ := ha.diamond hdisjoint hb
    obtain ⟨hanswerb, rfl⟩ := hab.unique hb'
    obtain ⟨hanswera, rfl⟩ := hba.unique ha'
    exact ⟨entries_eq_of_holds _ hcab hcba, hanswera, hanswerb⟩
  · simp only [s.change_of_frozen hfrozen, and_self]

/-- Edits that name no key in common can be done in either order. -/
theorem perform_edit_comm (hdistinct : s.KeysDistinct) {a b : Edit}
    (hdisjoint : a.keys.Disjoint b.keys) :
    ((s.perform (.edit a)).2.perform (.edit b)).2.entries =
        ((s.perform (.edit b)).2.perform (.edit a)).2.entries ∧
      ((s.perform (.edit b)).2.perform (.edit a)).1 = (s.perform (.edit a)).1 ∧
      ((s.perform (.edit a)).2.perform (.edit b)).1 = (s.perform (.edit b)).1 := by
  -- An edit that leaves its text as it was comes to no change at all.
  cases ha : a.change? with
  | none => simp only [perform_edit_of_none _ ha, and_self]
  | some ca =>
      cases hb : b.change? with
      | none => simp only [perform_edit_of_none _ hb, and_self]
      | some cb =>
          rw [← Edit.keys_eq ha, ← Edit.keys_eq hb] at hdisjoint
          obtain ⟨hentries, hanswera, hanswerb⟩ := s.change_comm hdistinct hdisjoint
          simp only [perform_edit_of_some _ ha, perform_edit_of_some _ hb]
          exact ⟨hentries, congrArg a.answer hanswera, congrArg b.answer hanswerb⟩

/-- An edit leaves the texts of the keys alone that it does not name. -/
theorem get?_perform_edit (hdistinct : s.KeysDistinct) {e : Edit} {key : String}
    (hkey : key ∉ e.keys) :
    KeyStore.get? (s.perform (.edit e)).2.store key = KeyStore.get? s.store key := by
  cases he : e.change? with
  | none => rw [perform_edit_of_none s he]
  | some change =>
      rw [← Edit.keys_eq he] at hkey
      rw [perform_edit_of_some s he]
      rcases holds_or_frozen hdistinct with ⟨c, hc⟩ | hfrozen
      · -- What a change does to contents is done to its own keys.
        obtain ⟨c', hanswers, hc'⟩ := s.holds_change hc change
        rw [get?_eq hc, get?_eq hc', hanswers.other hkey]
      · rw [s.change_of_frozen hfrozen]

/-! ### Exports -/

/-- An operation leaves the files of the store alone. Only an export may fail to. -/
def Spares (s : Session σ) : Operation → Prop
  | .exportAll outdir settings =>
    ∀ place ∈ places s.store, Command.Spares s.store outdir settings s.files place
  | _ => True

instance : ∀ op, Decidable (s.Spares op)
  | .edit _ => .isTrue trivial
  | .read _ => .isTrue trivial
  | .exportAll _ _ => List.decidableBAll _ _

/-- An export that leaves the files of the store alone leaves the store alone, even if it fails. -/
theorem perform_exportAll_store {outdir : String} {settings : ExportSettings}
    (h : s.Spares (.exportAll outdir settings)) :
    (s.perform (.exportAll outdir settings)).2.store = s.store :=
  s.resume_store (fun place hplace => (h place hplace).entry?_eq)
    (Command.exportAll_sameFile s.store outdir settings s.files)

/-! ### Runs -/

instance : Decidable s.KeysDistinct :=
  decidable_of_iff ((s.entries.toOption.getD []).map Prod.fst).Nodup
    ⟨fun h entries hentries => by rwa [hentries] at h, fun h => by
      cases hentries : s.entries with
      | error fault => exact List.nodup_nil
      | ok entries => exact h entries hentries⟩

/-- A store with contents lists no key twice. -/
theorem keysDistinct_of_holds {c : Contents} (h : Holds s.store c) : s.KeysDistinct := by
  intro entries hentries
  obtain ⟨l, hl, hlists⟩ := ContentStore.entries_eq h
  obtain rfl := Except.ok.inj (hl.symm.trans hentries)
  exact hlists.keys_nodup

/-- No key comes to be listed twice. -/
theorem keysDistinct_perform (hdistinct : s.KeysDistinct) {op : Operation} (h : s.Spares op) :
    (s.perform op).2.KeysDistinct := by
  cases op with
  | read r => rwa [s.perform_read r]
  -- The store is the same after an export, and with it the listing.
  | exportAll outdir settings =>
      intro entries hentries
      rw [Session.entries, s.perform_exportAll_store h] at hentries
      exact hdistinct entries hentries
  | edit e =>
      cases he : e.change? with
      | none => rwa [perform_edit_of_none s he]
      | some change =>
          rw [perform_edit_of_some s he]
          rcases holds_or_frozen hdistinct with ⟨c, hc⟩ | hfrozen
          · obtain ⟨_, _, hc'⟩ := s.holds_change hc change
            exact keysDistinct_of_holds _ hc'
          · rwa [s.change_of_frozen hfrozen]

/-- Every operation of a run leaves the files of the store alone when its turn comes. -/
def SparesAll (s : Session σ) : List Operation → Prop
  | [] => True
  | op :: run => s.Spares op ∧ SparesAll (s.perform op).2 run

instance decidableSparesAll : ∀ (s : Session σ) (run : List Operation), Decidable (s.SparesAll run)
  | _, [] => .isTrue trivial
  | s, op :: run =>
    have := decidableSparesAll (s.perform op).2 run
    inferInstanceAs (Decidable (s.Spares op ∧ SparesAll (s.perform op).2 run))

theorem keysDistinct_after (hdistinct : s.KeysDistinct) {run : List Operation}
    (h : s.SparesAll run) : (s.after run).KeysDistinct := by
  induction run generalizing s with
  | nil => exact hdistinct
  | cons op run ih => exact ih (s.perform op).2 (s.keysDistinct_perform hdistinct h.1) h.2

/-- A database in a file of the working directory that has just been opened. -/
def opened (path : String) : Session Database :=
  match Database.openAt .fresh path with
  | (.ok db, files) => resume db files
  | (.error _, files) => resume .inMemory files

/-- Two profiles are stored, the second from an editor, with an export in between. -/
def profiling : List Operation :=
  [.edit (.change (.set "base" "env: \x7b\x7d")), .exportAll "out" ⟨"", "yml"⟩,
    .edit (.keep "dev" "" "extends: [base]")]

/-- A database in which this was done. -/
def profiled : Session Database := (opened "denv.db").after profiling

end Session

end EnvProfiles
