import TradeLocal.Main
import TradeLocal.Proofs.Expansion.Meaning
import TradeLocal.Proofs.Expansion.Balance
import TradeLocal.Proofs.Config.Concatenation
import TradeLocal.Proofs.Config.Mention
import TradeLocal.Proofs.Config.OpenQuote
import TradeLocal.Proofs.Config.DoubleQuoted
import TradeLocal.Proofs.Forward.Words
import TradeLocal.Proofs.Forward.Echo
import TradeLocal.Proofs.Forward.Launched
import TradeLocal.Proofs.Settings.BaseDirectory
import TradeLocal.Proofs.Settings.Precedence
import TradeLocal.Proofs.Children.Books
import TradeLocal.Proofs.Children.Ownership
import TradeLocal.Proofs.Config.Layout
import TradeLocal.Proofs.Config.Accounting
import TradeLocal.Proofs.Forward.Abort
import TradeLocal.Proofs.Forward.Verbosity
import TradeLocal.Proofs.Children.Interrupts
import TradeLocal.Proofs.Query
import TradeLocal.Proofs.WaitStatus
import TradeLocal.Proofs.Forward.Forwarder
import TradeLocal.Proofs.Settings.Defaults
import TradeLocal.Proofs.Log.Lines
