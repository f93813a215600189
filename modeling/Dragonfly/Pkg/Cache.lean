import Mathlib.Order.Basic

/-!
# The expiring key-value cache

`pkg/cache/cache.go`: a map from keys to items, each a value and an expiration in Unix
nanoseconds. The two reads see expiration differently: `GetWithExpiration` (`cache.go:149`)
treats an item whose positive expiration has passed as absent, while `Get` (`cache.go:134`)
returns any item it holds (`get_of_getWithExpiration`, `getWithExpiration_of_unexpired`). `Set`
(`cache.go:86`) stamps an item with `now + d` for a positive duration and with `0`, never, for any
other. `Load` (`cache.go:317`) merges decoded items, each replacing an absent or expired one;
into an empty cache it takes them all (`items_load_newCache`).

The cache is created with `NoCleanup`, as its one user here does: no janitor runs, so nothing is
ever deleted. `SaveFile` is modelled by its outcome only, the file it writes being read by nothing
the model runs. Every clock reading is an argument.
-/

namespace Dragonfly.Pkg

/-- `Item` (`cache.go:30`): the value and its expiration in Unix nanoseconds, `0` for none. -/
structure Cache.Item (α : Type) where
  object : α
  expiration : Int64
  deriving DecidableEq, Repr

/-- `Item.Expired` (`cache.go:36`): only an expiration of `0` never passes. -/
def Cache.Item.expired {α : Type} (item : Cache.Item α) (now : Int64) : Bool :=
  if item.expiration = 0 then false else decide (now > item.expiration)

/-- The fields of `cache` (`cache.go:75`) that a cache without janitor uses. -/
structure Cache (α : Type) where
  defaultExpiration : Int64
  items : String → Option (Cache.Item α)

namespace Cache

variable {α : Type}

/-- `newCache` (`cache.go:417`): a default expiration of `0` becomes `-1`, never. -/
def newCache (de : Int64) : Cache α :=
  ⟨if de = 0 then -1 else de, fun _ => none⟩

/-- `New(defaultExpiration, NoCleanup)` (`cache.go:447`): no janitor. -/
def new (defaultExpiration : Int64) : Cache α := newCache defaultExpiration

/-- `Set` (`cache.go:86`) at the clock reading `now`: `time.Now().Add(d).UnixNano()` wraps as an
`int64` does. -/
def set (c : Cache α) (k : String) (x : α) (d now : Int64) : Cache α :=
  -- `DefaultExpiration`
  let d := if d = 0 then c.defaultExpiration else d
  let e : Int64 := if d > 0 then now + d else 0
  { c with items := fun k' => if k' = k then some ⟨x, e⟩ else c.items k' }

/-- `Get` (`cache.go:134`): the item's value, expired or not. -/
def get (c : Cache α) (k : String) : Option α := (c.items k).map Item.object

/-- `GetWithExpiration` (`cache.go:149`) at `now`: the item's value unless its positive
expiration has passed. The expiration time it also returns is left out. -/
def getWithExpiration (c : Cache α) (k : String) (now : Int64) : Option α :=
  match c.items k with
  | none => none
  | some item =>
    if item.expiration > 0 then
      if now > item.expiration then none else some item.object
    else some item.object

/-- `Load` (`cache.go:317`) of the decoded `items` at `now`: each replaces an item of its key that
is absent or expired. -/
def load (c : Cache α) (items : String → Option (Item α)) (now : Int64) : Cache α :=
  { c with
    items := fun k =>
      match items k with
      | none => c.items k
      | some v =>
        match c.items k with
        | none => some v
        | some ov => if ov.expired now then some v else some ov }

/-- `LoadFile` (`cache.go:339`), with what opening and decoding the file gives: the decoded items
are loaded, an error leaves the cache as it is. -/
def loadFile {ε : Type} (c : Cache α) (file : Except ε (String → Option (Item α))) (now : Int64) :
    Except ε (Cache α) :=
  match file with
  | .error err => .error err
  | .ok items => .ok (c.load items now)

/-! ### Reads after writes -/

@[simp] theorem get_set_self (c : Cache α) (k : String) (x : α) (d now : Int64) :
    (c.set k x d now).get k = some x := by
  simp [set, get]

@[simp] theorem get_set_of_ne (c : Cache α) {k k' : String} (h : k' ≠ k) (x : α) (d now : Int64) :
    (c.set k x d now).get k' = c.get k' := by
  simp [set, get, h]

/-- What `GetWithExpiration` finds, `Get` finds too. -/
theorem get_of_getWithExpiration {c : Cache α} {k : String} {now : Int64} {x : α}
    (h : c.getWithExpiration k now = some x) : c.get k = some x := by
  unfold getWithExpiration at h
  split at h
  · cases h
  · next item hitem =>
    rw [get, hitem, Option.map_some]
    split_ifs at h <;> simpa using h

/-- An item whose expiration has not passed, or that has none, is found by `GetWithExpiration`. -/
theorem getWithExpiration_of_unexpired {c : Cache α} {k : String} {item : Item α} {now : Int64}
    (hitem : c.items k = some item) (hnow : item.expiration > 0 → now ≤ item.expiration) :
    c.getWithExpiration k now = some item.object := by
  rw [getWithExpiration, hitem]
  dsimp only
  split_ifs with hpos hpassed
  · exact absurd (hnow hpos) (Int64.not_le.mpr hpassed)
  · rfl
  · rfl

/-- Loaded into an empty cache, the decoded items are the cache's. -/
theorem items_load_newCache (de : Int64) (items : String → Option (Item α)) (now : Int64) :
    ((newCache de : Cache α).load items now).items = items := by
  funext k
  simp only [load, newCache]
  cases items k <;> rfl

end Cache

end Dragonfly.Pkg
