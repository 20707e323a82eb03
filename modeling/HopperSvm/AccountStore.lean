import HopperSvm.Account

/-!
A map from addresses to accounts.  The writes of the harness file an account
under the address it has; only a restored snapshot may do otherwise.
-/

namespace Hopper

/-- `HashMap<Pubkey, KeyedAccount>`. -/
structure AccountStore where
  get : Pubkey → Option KeyedAccount

namespace AccountStore

/-- `HashMap::new()`. -/
def empty : AccountStore where
  get _ := none

/-- `store.insert(address, account)`, or an assignment through
`store.get_mut(address)`. -/
def put (store : AccountStore) (address : Pubkey)
    (account : KeyedAccount) : AccountStore where
  get other := if address = other then some account else store.get other

/-- `store.insert(account.address, account)`. -/
def insert (store : AccountStore) (account : KeyedAccount) :
    AccountStore :=
  store.put account.address account

/-- Insert every account, in order. -/
def insertAll (store : AccountStore) (accounts : List KeyedAccount) :
    AccountStore :=
  accounts.foldl insert store

/-- The zero-lamport, empty, system-owned account of an unknown address. -/
def unknownAccount (address : Pubkey) : KeyedAccount :=
  { address
    lamports := 0
    data := []
    owner := systemProgramId
    executable := false
    rentEpoch := 0 }

/-- `store.get(&address).cloned().unwrap_or_else(..)`. -/
def view (store : AccountStore) (address : Pubkey) : KeyedAccount :=
  (store.get address).getD (unknownAccount address)

@[simp]
theorem get_put (store : AccountStore) (address : Pubkey)
    (account : KeyedAccount) (other : Pubkey) :
    (store.put address account).get other =
      if address = other then some account else store.get other := rfl

@[simp]
theorem get_insert (store : AccountStore) (account : KeyedAccount)
    (address : Pubkey) :
    (store.insert account).get address =
      if account.address = address then some account
      else store.get address := rfl

/-- Every account is filed under its own address. -/
def Filed (store : AccountStore) : Prop :=
  ∀ address account, store.get address = some account →
    account.address = address

theorem Filed.address_view {store : AccountStore} (filed : store.Filed)
    (address : Pubkey) : (store.view address).address = address := by
  simp only [view]
  cases found : store.get address with
  | none =>
      rfl
  | some account =>
      exact filed address account found

theorem filed_empty : empty.Filed := by
  intro address account found
  cases found

theorem Filed.put {store : AccountStore} (filed : store.Filed)
    {address : Pubkey} {account : KeyedAccount}
    (own : account.address = address) : (store.put address account).Filed := by
  intro other found atOther
  rw [get_put] at atOther
  by_cases same : address = other
  · rw [if_pos same] at atOther
    cases atOther
    exact own.trans same
  · rw [if_neg same] at atOther
    exact filed other found atOther

theorem Filed.insert {store : AccountStore} (filed : store.Filed)
    (account : KeyedAccount) : (store.insert account).Filed :=
  filed.put rfl

theorem Filed.insertAll {store : AccountStore} (filed : store.Filed)
    (accounts : List KeyedAccount) : (store.insertAll accounts).Filed := by
  induction accounts generalizing store with
  | nil =>
      exact filed
  | cons account rest inductionHypothesis =>
      exact inductionHypothesis (filed.insert account)

/-- The last account at an address wins; other addresses keep theirs. -/
theorem get_insertAll (store : AccountStore)
    (accounts : List KeyedAccount) (address : Pubkey) :
    (store.insertAll accounts).get address =
      (findAccount address accounts.reverse).or (store.get address) := by
  simp only [findAccount]
  induction accounts generalizing store with
  | nil =>
      rfl
  | cons account rest inductionHypothesis =>
      have step : store.insertAll (account :: rest) =
          (store.insert account).insertAll rest := rfl
      rw [step, inductionHypothesis, List.reverse_cons,
        KeyedList.lookup_append, get_insert, KeyedList.lookup_cons,
        KeyedList.lookup_nil, Option.or_assoc]
      congr 1
      split <;> rfl

/-- With distinct addresses, the view after a commit is the committed
account, or what it was. -/
theorem view_insertAll (store : AccountStore)
    {accounts : List KeyedAccount} (distinct : (addresses accounts).Nodup)
    (address : Pubkey) :
    (store.insertAll accounts).view address =
      (findAccount address accounts).getD (store.view address) := by
  have reversed :
      findAccount address accounts.reverse =
        findAccount address accounts := by
    cases found : findAccount address accounts with
    | none =>
        unfold findAccount at found ⊢
        rw [KeyedList.lookup_eq_none_iff] at found ⊢
        rwa [List.map_reverse, List.mem_reverse]
    | some account =>
        have same :=
          KeyedList.key_of_lookup KeyedAccount.address found
        have member :=
          KeyedList.mem_of_lookup KeyedAccount.address found
        have reversedDistinct :
            (accounts.reverse.map KeyedAccount.address).Nodup := by
          rw [List.map_reverse]
          exact List.nodup_reverse.mpr distinct
        rw [← same]
        exact
          KeyedList.lookup_of_mem KeyedAccount.address reversedDistinct
            (List.mem_reverse.mpr member)
  rw [view, get_insertAll, reversed]
  cases findAccount address accounts with
  | none =>
      rfl
  | some account =>
      rfl

end AccountStore

end Hopper
