import IpldEthServer.Basic
import IpldEthServer.CidIndex
import IpldEthServer.CidFilters
import IpldEthServer.CidLogs
import IpldEthServer.CidReceipts
import IpldEthServer.Rlp
import IpldEthServer.StateIndex
import IpldEthServer.IpldRetriever
import IpldEthServer.Serve
import IpldEthServer.ServeMaps
import IpldEthServer.ServeDelivery
import IpldEthServer.ServeBackfill
import IpldEthServer.Resolver
import IpldEthServer.Transactions
import IpldEthServer.CidBlocks
import IpldEthServer.CidHeaderRecords
import IpldEthServer.CidRetrieve
import IpldEthServer.SqlText
import IpldEthServer.SqlLexer
import IpldEthServer.SqlReading
import IpldEthServer.SqlParser
import IpldEthServer.SqlSemantics
import IpldEthServer.SqlMeaning
import IpldEthServer.SqlConditions
import IpldEthServer.SqlRefinement
import IpldEthServer.IpldSql
import IpldEthServer.IpldReaders
