import QueryAdvisor.Json

/-!
# Example queries

Queries to try, for clients to show.
-/

namespace QueryAdvisor

structure ExampleQuery where
  title : Text
  query : Text
  description : Text

namespace ExampleQuery

def all : List ExampleQuery := [
  { title := "Simple Lookup"
    query := "SELECT * FROM users WHERE email = 'user@example.com';"
    description := "Basic WHERE clause lookup" },
  { title := "Join Query"
    query := Text.lines [
      "SELECT u.name, o.total_amount",
      "FROM users u",
      "JOIN orders o ON u.id = o.user_id",
      "WHERE o.status = 'completed';"]
    description := "Join with WHERE filter" },
  { title := "Aggregation"
    query := Text.lines [
      "SELECT",
      "  category,",
      "  COUNT(*) as total,",
      "  AVG(price) as avg_price",
      "FROM products",
      "GROUP BY category",
      "ORDER BY total DESC;"]
    description := "GROUP BY with aggregation" },
  { title := "Complex Join"
    query := Text.lines [
      "SELECT",
      "  p.name,",
      "  SUM(oi.quantity) as total_sold,",
      "  SUM(oi.quantity * oi.price) as revenue",
      "FROM products p",
      "LEFT JOIN order_items oi ON p.id = oi.product_id",
      "GROUP BY p.id, p.name",
      "ORDER BY revenue DESC",
      "LIMIT 10;"]
    description := "Multiple joins with aggregation" }]

def toJson (e : ExampleQuery) : Json :=
  .object [("title", .str e.title), ("query", .str e.query), ("description", .str e.description)]

end ExampleQuery

end QueryAdvisor
