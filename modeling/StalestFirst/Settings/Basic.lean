namespace StalestFirst

/-! ## Settings

Times are whole seconds. -/

/-- How the queue is kept: the pause after a rebuild that succeeded and after one
that failed, how many items may wait to be applied, and from how many of the
stalest boxes one is drawn. -/
structure QueueSettings where
  resyncSeconds : UInt64
  retrySeconds : UInt64
  bufferCapacity : UInt64
  selectionWindow : UInt64
  deriving DecidableEq

/-- How long a request and a draw from the queue may take, and how long requests
may go on once the service stops. -/
structure HttpSettings where
  requestSeconds : UInt64
  dequeueSeconds : UInt64
  graceSeconds : UInt64
  deriving DecidableEq

/-- How many connections to the database are kept, and how long one may take to
be made. -/
structure StoreSettings where
  maxConnections : UInt32
  connectSeconds : UInt64
  deriving DecidableEq

structure Settings where
  queue : QueueSettings
  http : HttpSettings
  store : StoreSettings
  deriving DecidableEq

/-! ## Values that hold unless others are given -/

/-- A rebuild every quarter of an hour, another try after ten seconds, a thousand
waiting items and a window of five boxes. -/
def QueueSettings.standard : QueueSettings := ⟨900, 10, 1000, 5⟩

/-- Ten seconds for a request, three for a draw and ten to stop. -/
def HttpSettings.standard : HttpSettings := ⟨10, 3, 10⟩

/-- Five connections, each made in five seconds. -/
def StoreSettings.standard : StoreSettings := ⟨5, 5⟩

def Settings.standard : Settings := ⟨.standard, .standard, .standard⟩

instance : Inhabited Settings := ⟨.standard⟩

end StalestFirst
