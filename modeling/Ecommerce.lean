import Ecommerce.Transaction.Program
import Ecommerce.Transaction.ReadCommitted
import Ecommerce.Transaction.Serial
import Ecommerce.Shared.Events
import Ecommerce.Shared.Prisma
import Ecommerce.Shared.ProcessOnce
import Ecommerce.OrderService.Schema
import Ecommerce.OrderService.Orders
import Ecommerce.Transaction.WeakestPrecondition
import Ecommerce.Transaction.Apart
import Ecommerce.Transaction.RelyGuarantee
import Ecommerce.Shared.Statements
import Ecommerce.OrderService.SagaConsumer
import Ecommerce.OrderService.OutcomeEffect
import Ecommerce.OrderService.Settlement
import Ecommerce.OrderService.TerminalEvents
import Ecommerce.InventoryService.Schema
import Ecommerce.InventoryService.Inventory
import Ecommerce.InventoryService.EventsConsumer
import Ecommerce.InventoryService.StockEffect
import Ecommerce.InventoryService.Overselling
import Ecommerce.OrderService.Idempotency
import Ecommerce.OrderService.CreateEffect
import Ecommerce.OrderService.OrderLedger
import Ecommerce.Deduplication
import Ecommerce.ExactlyOnce
import Ecommerce.Kafka.Text
import Ecommerce.Kafka.Json
import Ecommerce.Kafka.Consumer
import Ecommerce.Kafka.DeadLetters
import Ecommerce.PaymentService.Schema
import Ecommerce.PaymentService.Payments
import Ecommerce.PaymentService.OrderEventsConsumer
import Ecommerce.NotificationService.Schema
import Ecommerce.NotificationService.Notifications
import Ecommerce.NotificationService.NotificationEventsConsumer
import Ecommerce.PaymentService.ChargeEffect
import Ecommerce.NotificationService.SendEffect
import Ecommerce.InventoryService.ReleaseEffect
import Ecommerce.InventoryService.StockBalance
import Ecommerce.Machine.Run
import Ecommerce.Checkout.World
import Ecommerce.Checkout.Ledger
import Ecommerce.Checkout.Soundness
import Ecommerce.Checkout.Effects
import Ecommerce.Checkout.Preservation
import Ecommerce.Checkout.Refinement
import Ecommerce.Checkout.Confirmed
import Ecommerce.Checkout.Compensation
import Ecommerce.Checkout.Charges
import Ecommerce.Checkout.Drained
import Ecommerce.Checkout.Traceability
import Ecommerce.Transaction.Total
import Ecommerce.Shared.Completion
import Ecommerce.OrderService.SagaRun
import Ecommerce.OrderService.Verdict
import Ecommerce.InventoryService.ReserveOutcome
import Ecommerce.InventoryService.SerialStock
import Ecommerce.Outbox.Relay
import Ecommerce.Outbox.AtLeastOnce
import Ecommerce.Machine.Causal
import Ecommerce.Outbox.CommitOrder
import Ecommerce.Transaction.Leaves
import Ecommerce.OrderService.Execute
import Ecommerce.OrderService.ExecuteEffect
import Ecommerce.OrderService.OneAnswer
import Ecommerce.OrderService.FastPath
import Ecommerce.OrderService.OrdersController
import Ecommerce.ApiGateway.OrdersProxy
import Ecommerce.OrderService.Callers
import Ecommerce.ApiGateway.OwnOrder
import Ecommerce.Machine.FixedWindow
import Ecommerce.ApiGateway.RateLimit
import Ecommerce.ApiGateway.WindowBound
import Ecommerce.Shared.Double
import Ecommerce.Transaction.Never
import Ecommerce.AmountRange
import Ecommerce.Kafka.RetryLimit
import Ecommerce.Transaction.TwoPhase
import Ecommerce.ConcurrentDeliveries
import Ecommerce.Outbox.Duplicates
import Ecommerce.Outbox.Draining
import Ecommerce.Kafka.Stringify
import Ecommerce.Kafka.Utf8
import Ecommerce.Kafka.Wire
import Ecommerce.Kafka.Parsed
import Ecommerce.Kafka.ReadBack
import Ecommerce.Checkout.Deployment
import Ecommerce.ApiGateway.FairLimit
import Ecommerce.ApiGateway.Pipeline
import Ecommerce.Machine.Views
import Ecommerce.ApiGateway.Isolation
import Ecommerce.Kafka.Partition
import Ecommerce.NotificationService.Letters
import Ecommerce.Checkout.Told
import Ecommerce.Checkout.Deliveries
import Ecommerce.Machine.Progress
import Ecommerce.Checkout.Completion
import Ecommerce.Checkout.Progress
import Ecommerce.Kafka.Codec
import Ecommerce.Kafka.EventCodec
import Ecommerce.Checkout.OnTheWire
import Ecommerce.OrderService.Replies
