import Tempest.Netaddr
import Tempest.Harness
import Tempest.Ledger
import Tempest.Factories
import Tempest.NetworkFactories
import Tempest.Subnet
import Tempest.Connectivity
import Tempest.Poll
import Tempest.Factory
import Tempest.Teardown
import Tempest.Registration
import Tempest.Dashboard
import Tempest.Baremetal
import Tempest.Scenario
import Tempest.NetworkChecks
import Tempest.Operations
