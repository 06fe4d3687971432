import SiteCache.Command.Machine
import SiteCache.Main
import SiteCache.NameBook
import SiteCache.Proofs.Cache.Accounting
import SiteCache.Proofs.Cache.Bound
import SiteCache.Proofs.Cache.Closing
import SiteCache.Proofs.Cache.Failure
import SiteCache.Proofs.Cache.Freshness
import SiteCache.Proofs.Cache.Health
import SiteCache.Proofs.Cache.Policy
import SiteCache.Proofs.Cache.Promotion
import SiteCache.Proofs.Cache.Provenance
import SiteCache.Proofs.Cache.Recovery
import SiteCache.Proofs.Cache.Refusal
import SiteCache.Proofs.Cache.Residency
import SiteCache.Proofs.Engine
import SiteCache.Proofs.Expiry
import SiteCache.Proofs.Headers
import SiteCache.Proofs.Identity
import SiteCache.Proofs.NameBook.History
import SiteCache.Proofs.Site.Deployment
import SiteCache.Proofs.Site.Fetching
import SiteCache.Proofs.Site.Overriding
import SiteCache.Proofs.Site.Recasing
import SiteCache.Proofs.Site.Redeploy
import SiteCache.Proofs.Site.Remembering
import SiteCache.Proofs.Site.Resolving
import SiteCache.Proofs.Site.Staleness
import SiteCache.Proofs.Tier.Count
import SiteCache.Proofs.Tier.Displacement
import SiteCache.Proofs.Tier.Index
import SiteCache.Proofs.Tier.Separation
import SiteCache.Proofs.Tier.StoredTime
import SiteCache.Site.Datastore
