import StreamletLog.Except
import StreamletLog.Instance.Basic
import StreamletLog.Instance.Signatures
import StreamletLog.Instance.Quorum
import StreamletLog.Instance.Leader
import StreamletLog.Instance.EventLoop
import StreamletLog.Ledger.Chain
import StreamletLog.Ledger.Node
import StreamletLog.Ledger.Network
import StreamletLog.Ledger.Command
import StreamletLog.Ledger.Propagation
import StreamletLog.Ledger.Fork
