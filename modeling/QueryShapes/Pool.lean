import QueryShapes.Engine.Basic
import QueryShapes.Settings.Basic
import QueryShapes.Store.Sample

/-!
# Pools

A pool hands out connections to one engine. Its settings are kept and shown and connect to nothing,
and no call waits or fails for the want of a connection.

- `connect_execute`: a connection answers as its pool does.
-/

namespace QueryShapes

structure Pool where
  engine : Engine
  settings : PoolSettings

/-- A connection of a pool; it stays usable after it has been given back. -/
structure Connection where
  engine : Engine

namespace Connection

/-- The connection is alive. -/
def ping (_connection : Connection) : Bool := true

/-- Gives the connection back. -/
def release (connection : Connection) : Connection := connection

def execute (connection : Connection) (newId text : String) (parameters : List Value) :
    Except Failure Envelope :=
  (connection.engine.execute newId text parameters).mapError .engine

end Connection

namespace Pool

/-- A pool over a store. -/
def ofStore (store : Store) (settings : PoolSettings) : Pool := ⟨.ofStore store, settings⟩

/-- A pool over the sample store. -/
def create (settings : PoolSettings) : Pool := ofStore Sample.store settings

/-- A single connection has the same interface as a pool. -/
def createConnection (settings : PoolSettings) : Pool := create settings

def store (pool : Pool) : Store := pool.engine.store

def connect (pool : Pool) : Connection := ⟨pool.engine⟩

/-- Ends the pool. There is nothing to end, and calls go on working. -/
def close (pool : Pool) : Pool := pool

def execute (pool : Pool) (newId text : String) (parameters : List Value) :
    Except Failure Envelope :=
  (pool.engine.execute newId text parameters).mapError .engine

theorem connect_execute (pool : Pool) (newId text : String) (parameters : List Value) :
    pool.connect.execute newId text parameters = pool.execute newId text parameters := rfl

end Pool

end QueryShapes
