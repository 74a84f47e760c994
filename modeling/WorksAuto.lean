import WorksAuto.Accounts.Numbers
import WorksAuto.Accounts.Phone
import WorksAuto.Accounts.SignIn
import WorksAuto.Accounts.Slugs
import WorksAuto.Accounts.System
import WorksAuto.Accounts.Users
import WorksAuto.Appointments.Booking
import WorksAuto.Appointments.Cancel
import WorksAuto.Appointments.Closing
import WorksAuto.Appointments.Entity
import WorksAuto.Appointments.Interval
import WorksAuto.Appointments.Leaves
import WorksAuto.Appointments.PublicBooking
import WorksAuto.Appointments.Reminders
import WorksAuto.Appointments.Repository
import WorksAuto.Appointments.System
import WorksAuto.Auth.Families
import WorksAuto.Auth.Guesses
import WorksAuto.Auth.Otp
import WorksAuto.Auth.Session
import WorksAuto.Auth.Sms
import WorksAuto.Auth.SmsBudget
import WorksAuto.Auth.System
import WorksAuto.Billing.Advance
import WorksAuto.Billing.Announcement
import WorksAuto.Billing.Effects
import WorksAuto.Billing.Gateway
import WorksAuto.Billing.InvoiceAmounts
import WorksAuto.Billing.Ledger
import WorksAuto.Billing.Numbering
import WorksAuto.Billing.Snapshot
import WorksAuto.Billing.Step
import WorksAuto.Billing.System
import WorksAuto.Customers.Approvals
import WorksAuto.Customers.Chain
import WorksAuto.Customers.ConsentLink
import WorksAuto.Customers.Consents
import WorksAuto.Customers.Departed
import WorksAuto.Customers.Erasure
import WorksAuto.Customers.Fleet
import WorksAuto.Customers.Garage
import WorksAuto.Customers.Import
import WorksAuto.Customers.ImportCounters
import WorksAuto.Customers.Odometer
import WorksAuto.Customers.OnePhone
import WorksAuto.Customers.OnePlate
import WorksAuto.Customers.Plate
import WorksAuto.Customers.Redaction
import WorksAuto.Customers.Repository
import WorksAuto.Customers.Restoring
import WorksAuto.Customers.Rows
import WorksAuto.Customers.System
import WorksAuto.Customers.Tampering
import WorksAuto.Dashboard.DailyTrend
import WorksAuto.Dashboard.EntryWays
import WorksAuto.Dashboard.FinancialReport
import WorksAuto.Dashboard.Interchange
import WorksAuto.Dashboard.ReportRange
import WorksAuto.Events.Audience
import WorksAuto.Events.Gateway
import WorksAuto.Events.Vetting
import WorksAuto.Idempotency.AtMostOnce
import WorksAuto.Idempotency.Interceptor
import WorksAuto.Inventory.Places
import WorksAuto.Inventory.Placing
import WorksAuto.Inventory.Posting
import WorksAuto.Inventory.Shelves
import WorksAuto.Inventory.StockItem
import WorksAuto.Invoices.Arithmetic
import WorksAuto.Invoices.Custody
import WorksAuto.Invoices.Repository
import WorksAuto.Invoices.Secrecy
import WorksAuto.Invoices.Settings
import WorksAuto.Invoices.Totals
import WorksAuto.Invoices.Transaction
import WorksAuto.Invoices.UseCases
import WorksAuto.IsoDate
import WorksAuto.Lib.Base64
import WorksAuto.Lib.Book
import WorksAuto.Lib.Bytes
import WorksAuto.Lib.DelayQueue
import WorksAuto.Lib.Double
import WorksAuto.Lib.Ensure
import WorksAuto.Lib.ForeignKeys
import WorksAuto.Lib.Grouping
import WorksAuto.Lib.HashChain
import WorksAuto.Lib.Isolation
import WorksAuto.Lib.Journal
import WorksAuto.Lib.Json
import WorksAuto.Lib.Locking
import WorksAuto.Lib.Lockstep
import WorksAuto.Lib.Ownership
import WorksAuto.Lib.Paging
import WorksAuto.Lib.Persistence
import WorksAuto.Lib.Pool
import WorksAuto.Lib.Requests
import WorksAuto.Lib.Rounding
import WorksAuto.Lib.RowSecurity
import WorksAuto.Lib.Run
import WorksAuto.Lib.Table
import WorksAuto.Lib.Tally
import WorksAuto.Lib.View
import WorksAuto.Lib.Window
import WorksAuto.Media.Confinement
import WorksAuto.Media.Deletion
import WorksAuto.Media.Service
import WorksAuto.Notifications.Inbox
import WorksAuto.Notifications.InboxPages
import WorksAuto.Notifications.Inboxes
import WorksAuto.Notifications.QuietHours
import WorksAuto.Notifications.Recipients
import WorksAuto.Payments.PayTr
import WorksAuto.Payments.Service
import WorksAuto.Platform.AdminUsers
import WorksAuto.Platform.Administrators
import WorksAuto.Platform.Consents
import WorksAuto.Platform.Credentials
import WorksAuto.Platform.CryptoService
import WorksAuto.Platform.Legal
import WorksAuto.Platform.Profiles
import WorksAuto.Platform.Ranks
import WorksAuto.Platform.Registration
import WorksAuto.Platform.Rows
import WorksAuto.Platform.Staff
import WorksAuto.Schema
import WorksAuto.Store
import WorksAuto.Tenants.Attribution
import WorksAuto.Tenants.Belonging
import WorksAuto.Tenants.Books
import WorksAuto.Tenants.Deletion
import WorksAuto.Tenants.Isolation
import WorksAuto.Tenants.Linking
import WorksAuto.Tenants.Onboarding
import WorksAuto.Tenants.Ownership
import WorksAuto.Tenants.PrismaService
import WorksAuto.Tenants.References
import WorksAuto.Tenants.Repeating
import WorksAuto.Tenants.Retention
import WorksAuto.Tenants.RowPolicies
import WorksAuto.Tenants.Writes
import WorksAuto.Values
import WorksAuto.WorkOrders.Repository
import WorksAuto.WorkOrders.Status
import WorksAuto.WorkOrders.Tracking
import WorksAuto.WorkOrders.UseCases
import WorksAuto.Workshop.ActiveOrder
import WorksAuto.Workshop.Agreement
import WorksAuto.Workshop.CarryThrough
import WorksAuto.Workshop.CompletionTime
import WorksAuto.Workshop.Conservation
import WorksAuto.Workshop.Effects
import WorksAuto.Workshop.InvoiceLock
import WorksAuto.Workshop.Orders
import WorksAuto.Workshop.Replay
import WorksAuto.Workshop.Returns
import WorksAuto.Workshop.Serial
import WorksAuto.Workshop.Settled
import WorksAuto.Workshop.StatusChange
import WorksAuto.Workshop.Step
import WorksAuto.Workshop.Stock
import WorksAuto.Workshop.System
import WorksAuto.Workshop.Tolerance
import WorksAuto.Workshop.Totals
import WorksAuto.Workshop.Tracking
