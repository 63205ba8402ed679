import Paperd.Sysv
import Paperd.Utf8
import Paperd.Utf8.Encoding
import Paperd.Utf8.Decoding
import Paperd.Daemon
import Paperd.Messaging.Layout
import Paperd.Messaging.Reassembly
import Paperd.Messaging.Libc
import Paperd.Messaging.Send
import Paperd.Messaging.Open
import Paperd.Messaging.Receive
import Paperd.Messaging.Reporting
import Paperd.Messaging.RoundTrip
import Paperd.Messaging.Interleaving
import Paperd.Messaging.Arrivals
