import PoolPage.Table

/-!
The store of a dashboard: values by key, in a table that has to be made first.
-/

namespace PoolPage

structure Store where
  /-- Whether the values are kept when the store is opened again. -/
  durable : Bool
  /-- The values, once the table was made. -/
  values : Option (Table String)

namespace Store

def new (durable : Bool) : Store := ⟨durable, none⟩

/-- Makes the table; one that is there is kept. -/
def makeTable (store : Store) : Store :=
  { store with values := some (store.values.getD .empty) }

/-- The value of a key; fails without a table. -/
def get (store : Store) (key : String) : Option (Option String) :=
  store.values.map fun values => values.get? key

/-- Sets the value of a key; fails without a table. -/
def set (store : Store) (key value : String) : Option Store :=
  store.values.map fun values => { store with values := some (values.insert key value) }

/-- Why a store without a table fails. -/
def noTable : String := "no such table: kv"

def reopen (store : Store) : Store := if store.durable then store else new false

end Store

/-- The key of the last address that was typed. -/
def addressKey : String := "addr"

end PoolPage
