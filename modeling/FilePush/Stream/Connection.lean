import FilePush.Stream.Inbound
import FilePush.Stream.Outbound

/-!
# Connections

A connection is two independent streams, one in each direction.
-/

namespace FilePush

/-- A connection to a peer. -/
structure Connection where
  /-- What the peer sends. -/
  inbound : Inbound
  /-- What is sent to the peer. -/
  outbound : Outbound

end FilePush
