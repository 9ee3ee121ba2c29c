import VtsaCsms.Audit.TamperEvidence
import VtsaCsms.Billing.InvoicePayments
import VtsaCsms.Billing.ShareAllocations
import VtsaCsms.Billing.TrialBalance
import VtsaCsms.Billing.WalletLedger
import VtsaCsms.Charging.ConnectorReports
import VtsaCsms.Charging.EventDelivery
import VtsaCsms.Charging.ExpiryRun
import VtsaCsms.Charging.FlowBounds
import VtsaCsms.Charging.Histories
import VtsaCsms.Charging.PrepaidSettlement
import VtsaCsms.Charging.RegisterEnergy
import VtsaCsms.Charging.StartTokens
import VtsaCsms.Gateway.CommandDispatch
import VtsaCsms.Gateway.ConnectionGauge
import VtsaCsms.Gateway.Deduplication
import VtsaCsms.Gateway.FailedHandling
import VtsaCsms.Gateway.MeterNormalization
import VtsaCsms.Gateway.Ownership
import VtsaCsms.Gateway.Redaction
import VtsaCsms.Gateway.StoreEquivalence
import VtsaCsms.Gateway.TransactionSequence
import VtsaCsms.Identity.AccountRuns
import VtsaCsms.Identity.Approvals
import VtsaCsms.Identity.EffectiveInvitations
import VtsaCsms.Identity.MobileVerification
import VtsaCsms.Inventory.AverageCost
import VtsaCsms.Inventory.Commitments
import VtsaCsms.Inventory.OnHand
import VtsaCsms.Inventory.ReturnRuns
import VtsaCsms.Inventory.Reversals
import VtsaCsms.Kyc.Optical
import VtsaCsms.Kyc.Results
import VtsaCsms.Kyc.SignedMessages
import VtsaCsms.Kyc.SnapshotVersions
import VtsaCsms.Locations.PublicStationSearch
import VtsaCsms.Maintenance.Downtime
import VtsaCsms.Maintenance.IncidentRecovery
import VtsaCsms.Maintenance.PassedChecklists
import VtsaCsms.Maintenance.PausedClocks
import VtsaCsms.Maintenance.PreventiveRuns
import VtsaCsms.Maintenance.RefusedChanges
import VtsaCsms.Maintenance.WorkOrderTrail
import VtsaCsms.Mobile.AppLock
import VtsaCsms.Mobile.RejectedCredentials
import VtsaCsms.Mobile.ReorderedSnapshots
import VtsaCsms.Mobile.UnfinishedSessions
import VtsaCsms.Notifications.NoticeRuns
import VtsaCsms.Payments.DeclinedIncrements
import VtsaCsms.Payments.PaymentAttempts
import VtsaCsms.Payments.Refunds
import VtsaCsms.Payments.SignedFields
import VtsaCsms.Procurement.InvoiceMatches
import VtsaCsms.Settlements.ReconciliationService
import VtsaCsms.Settlements.SettlementRuns
import VtsaCsms.Tariffs.PublishedPeriods
import VtsaCsms.Tariffs.RatingExactness
