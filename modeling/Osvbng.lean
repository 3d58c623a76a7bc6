import Osvbng.Allocator.Delegation
import Osvbng.Pppoe.Authentication
import Osvbng.Pppoe.Addresses
import Osvbng.L2tp.Tunnel
import Osvbng.L2tp.Window
import Osvbng.L2tp.Quiescence
import Osvbng.L2tp.Copies
import Osvbng.L2tp.Reclaim
import Osvbng.Dhcp.Removal
import Osvbng.Radius.Transport
import Osvbng.Accounting.Records
import Osvbng.Upgrade.Interruption
import Osvbng.Conf.Rollback
import Osvbng.Ha.Election
import Osvbng.Ha.Switchover
import Osvbng.Ha.BulkSync
import Osvbng.Ha.Reservations
import Osvbng.Ha.Direction
import Osvbng.Allocator.Accounting
import Osvbng.Cgnat.Programming
import Osvbng.Cgnat.Convergence
import Osvbng.Session.Eviction
import Osvbng.Session.Checkpoints
import Osvbng.Ipoe.Expiry
import Osvbng.Ipoe.Indexes
import Osvbng.Relay.Matching
import Osvbng.Radius.Requests
import Osvbng.Accounting.Sources
import Osvbng.Accounting.Ledger
import Osvbng.Ha.Tracking
import Osvbng.Allocator.Opposite
import Osvbng.Ppp.Negotiation
import Osvbng.Ppp.Acknowledgement
import Osvbng.Cgnat.Rollback
import Osvbng.Radius.Response
import Osvbng.Session.Resolve
