import Feder.Server.Handlers

/-!
# Runs of a handler

A handler runs on its site, beside others that may change the site between its operations.
Deliveries have any outcome; storage calls succeed, or they may also fail.

* `Site.exec`      what an operation of a handler can answer and do;
* `runs_tryStore`  a storage call that succeeds goes on with its value.
-/

namespace Feder
open Serde

variable [Crates]

/-- what an operation can answer and do at a site, given what storage calls do -/
def Site.exec (storage : SqliteStore → (call : StoreCall) → Except StoreError call.Value →
      SqliteStore → Prop) (site : Site) : (o : Op) → o.Answer → Site → Prop
  | .store call, answer, site' =>
    ∃ store', storage site.store call answer store' ∧ site' = { site with store := store' }
  | .sendActivity localActor keyPair activity inbox, _, site' =>
    site' = { site with sent := site.sent ++ [⟨localActor, keyPair, activity, inbox⟩] }

/-- a storage call whose connection and statements succeed -/
def Succeeds (store : SqliteStore) (call : StoreCall) (answer : Except StoreError call.Value)
    (store' : SqliteStore) : Prop :=
  store.call call = (answer, store')

/-- the others leave what is seen of a site alone -/
def Keeps {υ : Type} (view : Site → υ) (site site' : Site) : Prop := view site' = view site

theorem exec_handle (deliver : Attempt → Except SendError Unit) (site : Site) (o : Op) :
    Site.exec Succeeds site o (handle deliver site o).1 (handle deliver site o).2 := by
  cases o with
  | store call => exact ⟨_, rfl, rfl⟩
  | sendActivity => rfl

theorem keeps_run {υ α : Type} (deliver : Attempt → Except SendError Unit) (view : Site → υ)
    (site : Site) (p : Program α) : Prog.Runs (Site.exec Succeeds) (Keeps view) site p
      (Prog.run (handle deliver) site p).1 (Prog.run (handle deliver) site p).2 := by
  have hrefl : ∀ site, Keeps view site site := fun _ => rfl
  exact Prog.runs_run (exec_handle deliver) hrefl site p

section
variable {rely : Site → Site → Prop} {site site' : Site} {α : Type}

theorem runs_store {call : StoreCall} {next : Except StoreError call.Value → Program α} {a : α}
    (h : Prog.Runs (Site.exec Succeeds) rely site (.op (.store call) next) a site') :
    ∃ site₁, rely site site₁ ∧ Prog.Runs (Site.exec Succeeds) rely
      { site₁ with store := (site₁.store.call call).2 } (next (site₁.store.call call).1) a site' := by
  cases h with
  | @op _ site₁ _ _ _ _ answer _ hrely hexec hrest =>
    obtain ⟨store', hcall, rfl⟩ := hexec
    refine ⟨site₁, hrely, ?_⟩
    rw [show site₁.store.call call = (answer, store') from hcall]
    exact hrest

theorem runs_tryStore {call : StoreCall} {next : call.Value → Program (Except StatusCode α)}
    {a : Except StatusCode α}
    (h : Prog.Runs (Site.exec Succeeds) rely site (tryStore call next) a site') :
    ∃ site₁, rely site site₁ ∧ ∀ value store, site₁.store.call call = (.ok value, store) →
      Prog.Runs (Site.exec Succeeds) rely { site₁ with store := store } (next value) a site' := by
  obtain ⟨site₁, hrely, hrest⟩ := runs_store h
  refine ⟨site₁, hrely, fun value store hcall => ?_⟩
  rw [hcall] at hrest
  exact hrest

theorem runs_send {localActor : Actor} {keyPair : ActorKeyPair} {activity : Json} {inbox : Iri}
    {next : Except SendError Unit → Program α} {a : α}
    (h : Prog.Runs (Site.exec Succeeds) rely site
      (.op (.sendActivity localActor keyPair activity inbox) next) a site') :
    ∃ site₁ answer, rely site site₁ ∧ Prog.Runs (Site.exec Succeeds) rely
      { site₁ with sent := site₁.sent ++ [⟨localActor, keyPair, activity, inbox⟩] }
      (next answer) a site' := by
  cases h with
  | @op _ site₁ _ _ _ _ answer _ hrely hexec hrest =>
    cases hexec
    exact ⟨site₁, answer, hrely, hrest⟩

theorem runs_ret {a b : α}
    (h : Prog.Runs (Site.exec Succeeds) rely site (.ret a) b site') : b = a ∧ rely site site' := by
  cases h with
  | ret hrely => exact ⟨rfl, hrely⟩

end

end Feder
