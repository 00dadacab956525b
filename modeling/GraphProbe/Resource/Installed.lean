import GraphProbe.Resource.Tree

/-!
# The kit as installed

A `package:relative` identifier may name a file of any importable package, the kit's own
included. The kit is importable wherever a test runs, so its package is one of the trees a
package lookup reaches after the working directory. The one file of it kept here is the
module that lists the message types of the legacy `graphql-ws` sub-protocol; the directories
above it make `graphql_testkit` and `graphql_testkit.subscription` resolve as packages.
-/

namespace GraphProbe.Resource

/-- The message-type module of the legacy sub-protocol, as the installed kit holds it. -/
def legacyProtocolModule : String :=
  "\"\"\"Message types of the legacy ``graphql-ws`` sub-protocol.\"\"\"\n\nGRAPHQL_WS = \"graphql-ws\"\n\nGQL_CONNECTION_INIT = \"connection_init\"  # Client -> Server\nGQL_CONNECTION_ACK = \"connection_ack\"  # Server -> Client\nGQL_CONNECTION_ERROR = \"connection_error\"  # Server -> Client\nGQL_CONNECTION_KEEP_ALIVE = \"ka\"  # Server -> Client\nGQL_CONNECTION_TERMINATE = \"connection_terminate\"  # Client -> Server\nGQL_START = \"start\"  # Client -> Server\nGQL_DATA = \"data\"  # Server -> Client\nGQL_ERROR = \"error\"  # Server -> Client\nGQL_COMPLETE = \"complete\"  # Server -> Client\nGQL_STOP = \"stop\"  # Client -> Server\n"

/-- The installed kit, by paths relative to the directory that holds its package. -/
def installedKit : FileTree := FileTree.ofListing [
  ("graphql_testkit/subscription/protocol.py", .file legacyProtocolModule.toUTF8.toList)]

end GraphProbe.Resource
