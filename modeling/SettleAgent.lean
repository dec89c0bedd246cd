import SettleAgent.Store.Secrets
import SettleAgent.Integrations.Postgres
import SettleAgent.Integrations.Paths
import SettleAgent.Receipts.Signatures
import SettleAgent.Postgres.Credentials
import SettleAgent.Postgres.PolicySets
import SettleAgent.Postgres.Migrations
import SettleAgent.Api.Scopes
import SettleAgent.Api.Redaction
import SettleAgent.Api.Limiter
import SettleAgent.Api.HTTPAllowlist
import SettleAgent.Postgres.Commit
import SettleAgent.Sequential.Defaults
import SettleAgent.Sequential.Versions
import SettleAgent.Sequential.Refusals
import SettleAgent.Sequential.Authority
import SettleAgent.Sequential.Closing
import SettleAgent.Sequential.Dispatch
import SettleAgent.Sequential.RefundTiers
import SettleAgent.Sequential.Reconciliation
import SettleAgent.Sequential.Delivery
import SettleAgent.Sequential.Rollback
import SettleAgent.Sequential.UndoOrder
import SettleAgent.Tenancy.Agents
import SettleAgent.Tenancy.Credentials
import SettleAgent.Tenancy.Noninterference
import SettleAgent.Concurrent.RefundKeys
import SettleAgent.Concurrent.Replays
import SettleAgent.Concurrent.RiskScreen
import SettleAgent.Concurrent.Once
import SettleAgent.Postgres.Replays
import SettleAgent.Concurrent.Undoing
import SettleAgent.Concurrent.References
